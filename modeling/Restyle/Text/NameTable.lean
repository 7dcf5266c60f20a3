/-!
The names of characters in the order of the alphabet. Each name begins with a mark for the number of
letters that it shares with the one before it; only what is different follows. Names with a rule, as
those of ideographs, are left out.
-/
namespace Restyle.Text

/-- The marks for the numbers from zero on. -/
def sharedMarks : String := "abcdefghijklmnopqrstuvwxyz!$%&()*+,.:;<=>?@^_|~"

def nameTable : String := "
aABACUSbC CURRENTcCORDIONeUNT OFcKdNOWLEDGEcTIVATE ARABIC FORM SHAPINGjSYMMETRIC SWAPPING
cUTE ACCENThNGLEbDDRESSED TO THE SUBJECTcHESIVE BANDAGEcI SHAKTIcLAM ALIF LENGTHENER
gCAPITAL LETTER ALIFvBAwHEvCHIvDAALIwHAvEvFAvGAwBEvHAvIvJIIMvKAFwHAwPOvLAAMvMIIMvNHAwUNwYAvOvPE
vQAAFvRAvSHAwINNYIIYHEvTUvUvVAvWAWvYAwHEvZALhONSONANT MODIFIERgDIGIT EIGHTmFIVEnOURmNINEmONEmSEVEN
nIXmTHREEnWOmZEROgGEMINATE CONSONANT MODIFIERnION MARKgHAMZAgINITIAL EXCLAMATION MARKoQUESTION MARK
gNASALIZATION MARKhUKTAgSMALL LETTER ALIFtBAuHEtCHItDAALIuHAtEtFAtGAuBEtHAtItJIIMtKAFuHAuPOtLAAM
tMIIMtNHAuUNuYAtOtPEtQAAFtRAtSHAuINNYIIYHEtTUtUtVAtWAWtYAuHEtZALgVOWEL LENGTHENERcMETOS
dISSION TICKETScULTbEGEAN CHECK MARKhDRY MEASURE FIRST SUBUNIThLIQUID MEASURE FIRST SUBUNIT
hMEASURE SECOND SUBUNITpTHIRD SUBUNIThNUMBER EIGHTt HUNDREDuTHOUSANDtYu THOUSANDoFIFTYt THOUSANDqVE
s HUNDREDtTHOUSANDpORTYt THOUSANDqURs HUNDREDtTHOUSANDoNINEs HUNDREDtTHOUSANDsTYu THOUSANDoONE
r HUNDREDsTHOUSANDoSEVENt HUNDREDuTHOUSANDtTYv THOUSANDpIXr HUNDREDsTHOUSANDrTYt THOUSANDoTEN
r THOUSANDpHIRTYu THOUSANDqREEt HUNDREDuTHOUSANDpWENTYu THOUSANDqOr HUNDREDsTHOUSAND
hWEIGHT BASE UNIToFIRST SUBUNITpOURTH SUBUNIToSECOND SUBUNIToTHIRD SUBUNITiORD SEPARATOR DOTwLINE
cRIAL TRAMWAYbFGHANI SIGNbHOM CONSONANT SIGN MEDIAL LA%IGATING RA$RAfDIGIT EIGHTlFIVEmOURlNINElONE
lSEVENmIXlTHREEmWOlZEROfLETTER AnLTERNATE BAwGAwTAmBAnHAmCAnHAmDAnDAoHAnHAmGAnHAmHAmJAnHAmKAnHAmLA
nLAmMAmNAnGAnNAnYAmPAnHAmRAmSAmTAnHAnTAoHAfNUMBER TENnWENTYfSIGN KILLERkRULAIkSECTIONlMALL SECTION
gYMBOL VIfVOWEL SIGN ArArIrMrWqEqIrIqOqUrUbIRPLANEi ARRIVINGjDEPARTUREbKTIESELSKABbLARM CLOCK
cCHEMICAL SYMBOL FOR AIRxLEMBICyKALI%-2yUMxMALGAMxNTIMONY ORExQUA REGIA*-2$VITAE*-2!FORTISxRSENIC
xSHESxURIPIGMENTwBATH OF MARY(VAPOURSxISMUTH ORExLACK SULFURxORAX$-2%3xRICKwCADUCEUSyLXyPUT MORTUUM
xINNABARxOPPER ANTIMONIATE&ORExROCUS OF COPPER<-2*IRONyUCIBLE(-2)3)4)5wDAY-NIGHTxISSOLVE(-2zTILL
wEARTHwFIREwGOLDxUMwHALF DRAM$OUNCExORSE DUNGyURwIRON ORE(-2!-COPPER OREwLEAD ORExODESTONE
wMARCASITExERCURY SUBLIMATE=-2>3xONTHwNIGHTyTREwOILwPHILOSOPHERS SULFURxOT ASHESyWDER%ED BRICK
xRECIPITATExURIFYyTREFACTIONwQUICK LIMEzNTESSENCEwREALGAR&-2yGULUS& OF ANTIMONY?-2+IRON&-2(3(4yTORT
xOCK SALT)-2wSAL-AMMONIACzT! OF ANTIMONY(COPPER ANTIMONIATExCEPTER OF JOVExILVERxOAPxPIRIT
xTARRED TRIDENTyRATUM SUPER STRATUM^-2xUBLIMATE OF ANTIMONY.COPPER.SALT OF ANTIMONY^COPPER(IONyLFUR
wTARTAR%-2xIN OREzCTURExRIDENTxUTTYwURINEwVERDIGRISxINEGAR& OF ANTIMONY&-2(3yTRIOL&-2wWATERyX
cEF SYMBOLdMBICdRTcIEN MONSTERcL AROUND-PROFILEeEQUAL TOcMdOST EQUAL OR EQUAL TOnTO
p WITH CIRCUMFLEX ACCENTcTERNATE ONE-WAY LEFT WAY TRAFFICiIVE KEY SYMBOLbMALGAMATION OR COPRODUCT
cBULANCEcERICAN FOOTBALLcPERSANDdHORAbNATOLIAN HIEROGLYPH A001y2y3y4y5y6y7y8y9x10zAy1y2y3y4y5y6y7y8
y9x20y1y2y3y4y5y6zAy7y8y9x30y1y2y3y4y5y6y7y8y9zAx40y1zAy2y3y4y5zAy6zAzBy7y8y9x50y1y2y3y4y5y6y7y8y9
x60y1y2y3y4y5y6zAzBzCy7y8y9x70y1y2y3y4y5y6y7y8y9x80y1y2y3y4y5y6y7y8y9x90y1y2y3y4y5y6y7zAy8zAy9w100
zAy1zAy2zAy3y4zAzBzCy5zAzBy6y7zAzBzCy8y9x10zAzBy1y2y3y4y5zAy6y7y8y9x20y1y2y3y4y5zAy6y7y8y9x30y1y2y3
y4y5zAy6y7y8y9x40y1y2y3y4y5y6y7y8y9x50y1y2y3y4y5y6y7y8y9x60y1y2y3y4y5y6y7y8y9x70y1y2y3y4y5y6y7y8y9
x80y1y2y3y4y5y6y7y8y9x90y1y2y3y4y5y6y7y8y9w200y1y2zAzBy3y4y5y6y7zAy8y9zAx10y1y2y3y4y5zAy6zAy7y8y9
x20y1y2y3y4y5y6y7zAy8y9x30y1y2y3y4y5y6y7y8y9x40y1y2y3y4y5y6y7y8y9x50y1y2y3y4y5y6y7y8y9x60y1y2y3y4y5
y6y7zAy8y9x70y1y2y3y4y5y6y7y8y9x80y1y2y3y4y5y6y7y8y9zAx90y1y2y3y4zAy5y6y7y8y9zAw300y1y2y3y4y5y6y7y8
y9zAx10y1y2y3y4y5y6y7y8y9x20y1y2y3y4y5y6y7y8y9zAx30y1y2AzBzCy3y4y5y6zAzBzCy7y8y9x40y1y2y3y4y5y6y7y8
y9x50y1y2y3y4y5y6y7y8y9zAx60y1y2y3y4zAy5y6y7y8zAy9x70y1zAy2y3y4y5y6y7y8y9x80y1zAy2y3 RA OR RIzAy4y5
y6zAy7y8y9x90y1y2y3 EIGHTy4y5y6y7y8y9w400y1y2y3y4y5y6y7y8y9x10 BEGIN LOGOGRAM MARK
zA END LOGOGRAM MARKy1y2y3y4y5y6y7y8y9x20y1y2y3y4y5y6y7y8y9x30y1y2y3y4y5y6y7y8y9x40y1y2y3y4y5y6y7y8
y9x50zAy1y2y3y4y5y6y7zAy8y9x60y1y2y3y4y5y6y7y8y9x70y1y2y3y4y5y6y7y8y9x80y1y2y3y4y5y6y7y8y9x90y1y2y3
y4y5y6y7w501y2y3y4y5y6y7y8y9x10y1y2y3y4y5y6y7y8y9x20y1y2y3y4y5y6y7y8y9x30fMICAL HEARTcCHOR
cD WITH DOTcGER SYMBOLdLEf WITH S INSIDElUNDERBARdRY FACEdSTROM SIGNdUISHED FACEcKHcT
dENNA WITH BARSdICLOCKWISE CLOSED CIRCLE ARROWpONTOUR INTEGRAL
oDOWNWARDS AND UPWARDS OPEN CIRCLE ARROWSoGAPPED CIRCLE ARROWoINTEGRATIONoOPEN CIRCLE ARROW
oTOP SEMICIRCLE ARROWpRIANGLE-HEADED BOTTOM U-SHAPED ARROW(LEFT U-SHAPED ARROW(OPEN CIRCLE ARROW
(RIGHT U-SHAPED ARROW(TOP U-SHAPED ARROWbPCcL FUNCTIONAL SYMBOL ALPHA$ UNDERBARwBACKSLASH BAR
wCIRCLE BACKSLASH&DIAERESIS&JOT&STAR)ILE&UNDERBARxOMMA BARwDEL DIAERESIS!STILE!TILDEzTA STILE
%UNDERBARxIAMOND UNDERBARxOWN CARET TILDE$SHOE STILE$TACK JOT*UNDERBAR!WARDS VANEwEPSILON UNDERBAR
wGREATER-THAN DIAERESISwI-BEAMxOTA! UNDERBARwJOT DIAERESIS!UNDERBARwLEFT SHOE STILE!WARDS VANE
wOMEGA$ UNDERBARwQUAD! BACKSLASH$CIRCLE%OLON$DEL(TA%IAMOND&VIDE%OWN CARET)WARDS ARROW$EQUAL
$GREATER-THAN$JOT$LEFTWARDS ARROW&SS-THAN$NOT EQUAL$QUESTION$RIGHTWARDS ARROW$SLASH$UP CARET
&WARDS ARROWyOTE QUAD%UNDERBARwRHOxIGHTWARDS VANEwSEMICOLON UNDERBARxLASH BARxQUISH QUAD
xTAR DIAERESISyILE TILDEwTILDE DIAERESISwUP CARET TILDEzSHOE JOTzTACK DIAERESIS(JOT(OVERBAR
yWARDS VANEwZILDEcOLLONdSTROPHEcPLICATION PROGRAM COMMANDdROACHES THE LIMIT
fXIMATELY BUT NOT ACTUALLY EQUAL TOoEQUAL OR EQUAL TOuTOw OR THE IMAGE OFbQUARIUS
bRABIC BASELINE ROUND DOThCOMMAiURLY DAMMAsTANnFATHAsTANnKASRAsTANhDAMMAm ISOLATED FORMnMEDIAL FORM
nWITH DOTmTANp ISOLATED FORMjTE SEPARATORiECIMAL SEPARATORiISPUTED END OF AYAH
iOUBLE RIGHT ARROWHEAD ABOVE. WITH DOTnD MADDAhEMPTY CENTRE HIGH STOPuLOW STOPiND OF AYAHoTEXT MARK
hFATHAm ISOLATED FORMnMEDIAL FORMnWITH DOT ABOVEsRINGsTWO DOTSmTANp ISOLATED FORMiIVE POINTED STAR
iOOTNOTE MARKERiULL STOPhHALF MADDA OVER MADDAjMZA ABOVEnBELOWhINVERTED DAMMAhKASRAm ISOLATED FORM
nMEDIAL FORMnWITH DOT BELOWmTANp ISOLATED FORMhLARGE CIRCLE BELOWnROUND DOT ABOVExBELOW
xINSIDE CIRCLE BELOWiEFT ARROWHEAD ABOVEwBELOWjTTER AEpFRICAN FEHwNOONwQAFz WITH THREE DOTS ABOVE
pINr FINAL FORMsINITIAL FORMtSOLATED FORMsMEDIAL FORMsWITH THREE DOTS ABOVE,BELOW
,POINTING DOWNWARDS ABOVEyWO DOTS ABOVE*VERTICALLY ABOVEpLEFs FINAL FORMtISOLATED FORMtMAKSURA
! FINAL FORM$ISOLATED FORMtWASLAy FINAL FORMzISOLATED FORMuITH ATTACHED BOTTOM RIGHT KASRA
~KASRA AND DOT ABOVE~KASRA AND LEFT RING+FATHA+KASRA+LEFT HAMZA<ROUND DOT+RIGHT HAMZA=ROUND DOT
,OUND DOT ABOVE^BELOW+TOP RIGHT FATHA~HA AND DOT ABOVE~HA AND LEFT RINGyDOT ABOVE
yEXTENDED ARABIC-INDIC DIGIT THREE ABOVE~DIGIT TWO ABOVEyHAMZA ABOVE. FINAL FORM:ISOLATED FORM
(BELOW. FINAL FORM:ISOLATED FORMyLEFT MIDDLE STROKEyMADDA ABOVE. FINAL FORM:ISOLATED FORM
yRIGHT MIDDLE STROKE^ AND DOT ABOVE~D LEFT RINGyWAVY HAMZA ABOVE.BELOWoBEEHs FINAL FORM
tINITIAL FORMuSOLATED FORMtMEDIAL FORMqHr FINAL FORMsINITIAL FORMtSOLATED FORMsMEDIAL FORM
sWITH DOT BELOW AND THREE DOTS ABOVExHAMZA ABOVExINVERTED SMALL V BELOWxSMALL MEEM ABOVE&V( BELOW
xTHREE DOTS HORIZONTALLY BELOW,POINTING UPWARDS BELOW~ARDS BELOW AND TWO DOTS ABOVE
yWO DOTS BELOW AND DOT ABOVErEHt FINAL FORMuINITIAL FORMvSOLATED FORMuMEDIAL FORMoDADr FINAL FORM
sINITIAL FORMtSOLATED FORMsMEDIAL FORMsWITH DOT BELOWqHALt FINAL FORMuISOLATED FORMqLr FINAL FORM
sISOLATED FORMsWITH DOT BELOW* AND SMALL TAHxFOUR DOTS ABOVExINVERTED SMALL V BELOW*VxRING
xTHREE DOTS ABOVE DOWNWARDS,BELOWyWO DOTS VERTICALLY BELOW AND SMALL TAHpDAHALu FINAL FORM
vISOLATED FORMrLs FINAL FORMtISOLATED FORMpOTLESS BEHwFEHwQAFpULr FINAL FORMsISOLATED FORMpYEH
s FINAL FORMtINITIAL FORMuSOLATED FORMtMEDIAL FORMoEp FINAL FORMqINITIAL FORMrSOLATED FORM
qMEDIAL FORMoFARSI YEHx FINAL FORMyINITIAL FORMzSOLATED FORMyMEDIAL FORM
yWITH EXTENDED ARABIC-INDIC DIGIT FOUR BELOW~NDIC DIGIT THREE ABOVE~NDIC DIGIT TWO ABOVE&INVERTED V
&THREE DOTS ABOVE(WO DOTS ABOVEpEHr FINAL FORMsINITIAL FORMtSOLATED FORMsMEDIAL FORMsWITH DOT BELOW
* AND THREE DOTS ABOVE$MOVED BELOWxTHREE DOTS BELOW,POINTING UPWARDS BELOWyWO DOTS BELOWoGAF
r FINAL FORMsINITIAL FORMtSOLATED FORMsMEDIAL FORMsWITH INVERTED STROKExRINGxTHREE DOTS ABOVE
yWO DOTS BELOWpHAINt FINAL FORMuINITIAL FORMvSOLATED FORMuMEDIAL FORMuWITH DOT BELOW
zTHREE DOTS ABOVEpRAFpUEHs FINAL FORMtINITIAL FORMuSOLATED FORMtMEDIAL FORMoHAHr FINAL FORM
sINITIAL FORMtSOLATED FORMsMEDIAL FORMsWITH EXTENDED ARABIC-INDIC DIGIT FOUR BELOWxHAMZA ABOVE
xINVERTED SMALL V BELOWxSMALL ARABIC LETTER TAH ABOVE~ AND TWO DOTS~ BELOWxTHREE DOTS ABOVE
,POINTING UPWARDS BELOWyWO DOTS ABOVE*VERTICAL ABOVEqMZAt ISOLATED FORMpEHr DOACHASHMEE& FINAL FORM
(INITIAL FORM)SOLATED FORM(MEDIAL FORMsFINAL FORMsGOALw FINAL FORMxINITIAL FORMySOLATED FORM
xMEDIAL FORMxWITH HAMZA ABOVEsINITIAL FORMtSOLATED FORMsMEDIAL FORMsWITH INVERTED VxYEH ABOVE
* FINAL FORM+ISOLATED FORMpIGH HAMZAy ALEFzWAWzYEHoJEEMs FINAL FORMtINITIAL FORMuSOLATED FORM
tMEDIAL FORMtWITH THREE DOTS ABOVE.BELOWzWO DOTS ABOVEqHr FINAL FORMsISOLATED FORMoKAFr FINAL FORM
sINITIAL FORMtSOLATED FORMsMEDIAL FORMsWITH DOT ABOVE$BELOWxRINGxTHREE DOTS BELOWyWO DOTS ABOVE
qSHMIRI YEHpEHEHt FINAL FORMuINITIAL FORMvSOLATED FORMuMEDIAL FORMuWITH DOT ABOVEzSMALL V
zTHREE DOTS ABOVE:BELOW:POINTING UPWARDS BELOW!WO DOTS ABOVE,VERTICALLY BELOWpHAHs FINAL FORM
tINITIAL FORMuSOLATED FORMtMEDIAL FORMpIRGHIZ OEy FINAL FORMzISOLATED FORMwYUy FINAL FORM
zISOLATED FORMoLAMr FINAL FORMsINITIAL FORMtSOLATED FORMsMEDIAL FORMsWITH BARxDOT ABOVEzUBLE BAR
xSMALL ARABIC LETTER TAH ABOVE&VxTHREE DOTS ABOVE,BELOWpOW ALEFoMARKpEEMs FINAL FORMtINITIAL FORM
uSOLATED FORMtMEDIAL FORMtWITH DOT ABOVE%BELOWyTHREE DOTS ABOVEoNGq FINAL FORMrINITIAL FORM
sSOLATED FORMrMEDIAL FORMqOEHt FINAL FORMuINITIAL FORMvSOLATED FORMuMEDIAL FORMpOONs FINAL FORM
tGHUNNAz FINAL FORM!ISOLATED FORMtINITIAL FORMuSOLATED FORMtMEDIAL FORMtWITH DOT BELOW
yINVERTED SMALL VyRINGySMALL TAH(VyTHREE DOTS ABOVEzWO DOTS BELOWpYEHs FINAL FORMtINITIAL FORM
uSOLATED FORMtMEDIAL FORMoOEq FINAL FORMrISOLATED FORMoPEHr FINAL FORMsINITIAL FORMtSOLATED FORM
sMEDIAL FORMsWITH SMALL MEEM ABOVE&VrEHt FINAL FORMuINITIAL FORMvSOLATED FORMuMEDIAL FORMoQAF
r FINAL FORMsINITIAL FORMtSOLATED FORMsMEDIAL FORMsWITH DOT ABOVE$BELOW* AND NO DOTS ABOVE
xTHREE DOTS ABOVEoREHr FINAL FORMsISOLATED FORMsWITH DOT BELOW* AND DOT ABOVExFOUR DOTS ABOVE
xHAMZA ABOVExINVERTED VxLOOPxRINGxSMALL ARABIC LETTER TAH AND TWO DOTS&NOON ABOVE&V( BELOWyTROKE
xTWO DOTS ABOVE*VERTICALLY ABOVEpNOONt FINAL FORMuINITIAL FORMvSOLATED FORMuMEDIAL FORMpOHINGYA YEH
pREHs FINAL FORMtISOLATED FORMoSADr FINAL FORMsINITIAL FORMtSOLATED FORMsMEDIAL FORM
sWITH THREE DOTS ABOVE,BELOWyWO DOTS BELOWpEENs FINAL FORMtINITIAL FORMuSOLATED FORMtMEDIAL FORM
tWITH DOT BELOW AND DOT ABOVEyEXTENDED ARABIC-INDIC DIGIT FOUR ABOVEyFOUR DOTS ABOVEyINVERTED V
ySMALL ARABIC LETTER TAH AND TWO DOTSyTHREE DOTS BELOW> AND THREE DOTS ABOVE
zWO DOTS VERTICALLY ABOVEpHEENt FINAL FORMuINITIAL FORMvSOLATED FORMuMEDIAL FORMuWITH DOT BELOW
pTRAIGHT WAWpUPERSCRIPT ALEFpWASH KAFoTAHr FINAL FORMsINITIAL FORMtSOLATED FORMsMEDIAL FORM
sWITH DOT BELOWxTHREE DOTS ABOVE,BELOWyWO DOTS ABOVEpCHEHt FINAL FORMuINITIAL FORMvSOLATED FORM
uMEDIAL FORMuWITH DOT ABOVEzSMALL VtEHv FINAL FORMwINITIAL FORMxSOLATED FORMwMEDIAL FORMpEH
r FINAL FORMsINITIAL FORMtSOLATED FORMsMARBUTAz FINAL FORM!GOAL!ISOLATED FORMtEDIAL FORMsWITH RING
xSMALL TEH ABOVE&VxTHREE DOTS ABOVE DOWNWARDSrEHt FINAL FORMuINITIAL FORMvSOLATED FORMuMEDIAL FORM
pHALs FINAL FORMtISOLATED FORMqEHs FINAL FORMtINITIAL FORMuSOLATED FORMtMEDIAL FORMqIN YEHpTEH
s FINAL FORMtINITIAL FORMuSOLATED FORMtMEDIAL FORMtWITH SMALL VsEHu FINAL FORMvINITIAL FORM
wSOLATED FORMvMEDIAL FORMoUp FINAL FORMqISOLATED FORMqWITH HAMZA ABOVE* ISOLATED FORM
pIGHUR KAZAKH KIRGHIZ ALEF MAKSURA INITIAL FORM~RA MEDIAL FORMoVEq FINAL FORMrISOLATED FORMqH
r FINAL FORMsINITIAL FORMtSOLATED FORMsMEDIAL FORMoWAWr FINAL FORMsISOLATED FORMsWITH DOT ABOVE
$WITHINxEXTENDED ARABIC-INDIC DIGIT THREE ABOVE~IGIT TWO ABOVExHAMZA ABOVE, FINAL FORM
.ISOLATED FORMxRINGxTWO DOTS ABOVEoYEHr BARREEy FINAL FORMzISOLATED FORM
zWITH EXTENDED ARABIC-INDIC DIGIT THREE ABOVE~INDIC DIGIT TWO ABOVE(HAMZA ABOVE? FINAL FORM
@ISOLATED FORMsFINAL FORMsINITIAL FORMtSOLATED FORMsMEDIAL FORMsWITH HAMZA ABOVE, FINAL FORM
.INITIAL FORM:SOLATED FORM.MEDIAL FORMxSMALL VxTAILyHREE DOTS BELOWyWO DOTS BELOW AND DOT ABOVE
@HAMZA ABOVE@SMALL NOON ABOVEpUq FINAL FORMrISOLATED FORMoZAHr FINAL FORMsINITIAL FORMtSOLATED FORM
sMEDIAL FORMqINs FINAL FORMtISOLATED FORMtWITH INVERTED V ABOVE
iIGATURE AIN WITH ALEF MAKSURA FINAL FORM<ISOLATED FORMzJEEM INITIAL FORM)SOLATED FORM
(WITH MEEM FINAL FORM>INITIAL FORMzMEEM INITIAL FORM)SOLATED FORM(WITH ALEF MAKSURA FINAL FORM
.MEEM FINAL FORM>INITIAL FORM.YEH FINAL FORMzYEH FINAL FORM&ISOLATED FORMrKBAR ISOLATED FORM
rLAYHAA AS-SALAAMvE ISOLATED FORMvI AS-SALAAM)TU WAS-SALAAMwM AS-SALAAMxAA AS-SALAAM
sEF MAKSURA WITH SUPERSCRIPT ALEF FINAL FORM~ALEF ISOLATED FORMvWITH FATHATAN FINAL FORM
.ISOLATED FORMsLAH ISOLATED FORMrZZA WA JALLqBEH WITH ALEF MAKSURA FINAL FORM<ISOLATED FORM
zHAH INITIAL FORM(SOLATED FORM&WITH YEH FINAL FORM!EH INITIAL FORM&MEDIAL FORMzJEEM INITIAL FORM
)SOLATED FORMzKHAH INITIAL FORM)SOLATED FORM(WITH YEH FINAL FORMzMEEM FINAL FORM(INITIAL FORM
)SOLATED FORM(MEDIAL FORMzNOON FINAL FORMzREH FINAL FORMzYEH FINAL FORM&ISOLATED FORM
zZAIN FINAL FORMrISMILLAH AR-RAHMAN AR-RAHEEMqDAD WITH ALEF MAKSURA FINAL FORM<ISOLATED FORM
zHAH INITIAL FORM(SOLATED FORM&WITH ALEF MAKSURA FINAL FORM,YEH FINAL FORMzJEEM INITIAL FORM
)SOLATED FORMzKHAH INITIAL FORM)SOLATED FORM(WITH MEEM FINAL FORM>INITIAL FORMzMEEM INITIAL FORM
)SOLATED FORMzREH FINAL FORM&ISOLATED FORMzYEH FINAL FORM&ISOLATED FORM
qFEH WITH ALEF MAKSURA FINAL FORM<ISOLATED FORMzHAH INITIAL FORM(SOLATED FORMzJEEM INITIAL FORM
)SOLATED FORMzKHAH INITIAL FORM)SOLATED FORM(WITH MEEM FINAL FORM>INITIAL FORMzMEEM INITIAL FORM
)SOLATED FORM(WITH YEH FINAL FORMzYEH FINAL FORM&ISOLATED FORMqGHAIN WITH ALEF MAKSURA FINAL FORM
>ISOLATED FORM$JEEM INITIAL FORM+SOLATED FORM$MEEM INITIAL FORM+SOLATED FORM
*WITH ALEF MAKSURA FINAL FORM;MEEM FINAL FORM;YEH FINAL FORM$YEH FINAL FORM)ISOLATED FORM
qHAH WITH ALEF MAKSURA FINAL FORM<ISOLATED FORMzJEEM INITIAL FORM)SOLATED FORM(WITH YEH FINAL FORM
zMEEM INITIAL FORM)SOLATED FORM(WITH ALEF MAKSURA FINAL FORM.YEH FINAL FORMzYEH FINAL FORM
&ISOLATED FORMrEH WITH ALEF MAKSURA ISOLATED FORMzJEEM INITIAL FORM)SOLATED FORMzMEEM INITIAL FORM
)SOLATED FORM(WITH JEEM INITIAL FORM.MEEM INITIAL FORMzSUPERSCRIPT ALEF INITIAL FORM
zYEH ISOLATED FORMqJALLAJALALOUHOUrEEM WITH ALEF MAKSURA FINAL FORM=ISOLATED FORM!HAH INITIAL FORM
)SOLATED FORM(WITH ALEF MAKSURA FINAL FORM.YEH FINAL FORM!MEEM INITIAL FORM*SOLATED FORM
)WITH ALEF MAKSURA FINAL FORM:HAH FINAL FORM>INITIAL FORM:YEH FINAL FORM!YEH FINAL FORM
(ISOLATED FORMqKAF WITH ALEF FINAL FORM(ISOLATED FORM(MAKSURA FINAL FORM<ISOLATED FORM
zHAH INITIAL FORM(SOLATED FORMzJEEM INITIAL FORM)SOLATED FORMzKHAH INITIAL FORM)SOLATED FORM
zLAM FINAL FORM&INITIAL FORM(SOLATED FORM&MEDIAL FORMzMEEM FINAL FORM(INITIAL FORM)SOLATED FORM
(MEDIAL FORM(WITH MEEM FINAL FORM>INITIAL FORM.YEH FINAL FORMzYEH FINAL FORM&ISOLATED FORM
rHAH WITH ALEF MAKSURA FINAL FORM=ISOLATED FORM!HAH ISOLATED FORM!JEEM INITIAL FORM*SOLATED FORM
!MEEM INITIAL FORM*SOLATED FORM!YEH FINAL FORM(ISOLATED FORMqLAM WITH ALEF FINAL FORM(ISOLATED FORM
(MAKSURA FINAL FORM<ISOLATED FORM(WITH HAMZA ABOVE FINAL FORM~ ISOLATED FORM?BELOW FINAL FORM
~ ISOLATED FORM.MADDA ABOVE FINAL FORM~ ISOLATED FORMzHAH INITIAL FORM(SOLATED FORM
&WITH ALEF MAKSURA FINAL FORM,MEEM FINAL FORM=INITIAL FORM,YEH FINAL FORM!EH INITIAL FORM
zJEEM INITIAL FORM)SOLATED FORM(WITH JEEM FINAL FORM>INITIAL FORM.MEEM FINAL FORM>INITIAL FORM
.YEH FINAL FORMzKHAH INITIAL FORM)SOLATED FORM(WITH MEEM FINAL FORM>INITIAL FORMzMEEM FINAL FORM
(INITIAL FORM)SOLATED FORM(MEDIAL FORM(WITH HAH FINAL FORM=INITIAL FORM.YEH FINAL FORM
zYEH FINAL FORM&ISOLATED FORMqMEEM WITH ALEF FINAL FORM)MAKSURA ISOLATED FORM!HAH INITIAL FORM
)SOLATED FORM(WITH JEEM INITIAL FORM.MEEM INITIAL FORM.YEH FINAL FORM!JEEM INITIAL FORM
*SOLATED FORM)WITH HAH INITIAL FORM:KHAH INITIAL FORM:MEEM INITIAL FORM:YEH FINAL FORM
!KHAH INITIAL FORM*SOLATED FORM)WITH JEEM INITIAL FORM:MEEM INITIAL FORM:YEH FINAL FORM
!MEEM FINAL FORM)INITIAL FORM*SOLATED FORM)WITH YEH FINAL FORM!YEH ISOLATED FORM
rOHAMMAD ISOLATED FORMqNOON WITH ALEF MAKSURA FINAL FORM=ISOLATED FORM!HAH INITIAL FORM
)SOLATED FORM(WITH ALEF MAKSURA FINAL FORM.MEEM INITIAL FORM.YEH FINAL FORM$EH INITIAL FORM
(MEDIAL FORM!JEEM INITIAL FORM*SOLATED FORM)WITH ALEF MAKSURA FINAL FORM:HAH FINAL FORM
>INITIAL FORM:MEEM FINAL FORM?INITIAL FORM:YEH FINAL FORM!KHAH INITIAL FORM*SOLATED FORM
!MEEM FINAL FORM)INITIAL FORM*SOLATED FORM)MEDIAL FORM)WITH ALEF MAKSURA FINAL FORM:YEH FINAL FORM
!NOON FINAL FORM!REH FINAL FORM!YEH FINAL FORM(ISOLATED FORM!ZAIN FINAL FORM
qQAF WITH ALEF MAKSURA FINAL FORM<ISOLATED FORMzHAH INITIAL FORM(SOLATED FORMzMEEM INITIAL FORM
)SOLATED FORM(WITH HAH FINAL FORM=INITIAL FORM.MEEM FINAL FORM.YEH FINAL FORMzYEH FINAL FORM
&ISOLATED FORMsLA USED AS KORANIC STOP SIGN ISOLATED FORMrUDDISA SIRRAHqRADI ALLAAHU ANH*AA*UM,AA
+NNAsHIMAHU ALLAAHyM ALLAAHsSOUL ISOLATED FORMrEH WITH SUPERSCRIPT ALEF ISOLATED FORM
qSAD WITH ALEF MAKSURA FINAL FORM<ISOLATED FORMzHAH INITIAL FORM(SOLATED FORM&WITH HAH FINAL FORM
<INITIAL FORM,YEH FINAL FORMzKHAH INITIAL FORMzMEEM INITIAL FORM)SOLATED FORM(WITH MEEM FINAL FORM
>INITIAL FORMzREH FINAL FORM&ISOLATED FORMzYEH FINAL FORM&ISOLATED FORMsLAAMUHU ALAYNAA
uM ISOLATED FORMtLA ISOLATED FORMwUSED AS KORANIC STOP SIGN ISOLATED FORMvLLAAHU ALAYHI WA-AALIH
yHOU ALAYHE WASALLAMzU ALAYHI WAAALIHEE WA-SALLAMrEEN WITH ALEF MAKSURA FINAL FORM=ISOLATED FORM
!HAH INITIAL FORM)SOLATED FORM(MEDIAL FORM(WITH JEEM INITIAL FORM$EH INITIAL FORM(MEDIAL FORM
!JEEM INITIAL FORM*SOLATED FORM)MEDIAL FORM)WITH ALEF MAKSURA FINAL FORM:HAH INITIAL FORM
!KHAH INITIAL FORM*SOLATED FORM)MEDIAL FORM)WITH ALEF MAKSURA FINAL FORM:YEH FINAL FORM
!MEEM INITIAL FORM*SOLATED FORM)MEDIAL FORM)WITH HAH FINAL FORM>INITIAL FORM:JEEM INITIAL FORM
:MEEM FINAL FORM?INITIAL FORM!REH FINAL FORM(ISOLATED FORM!YEH FINAL FORM(ISOLATED FORM
rHADDA WITH DAMMA ISOLATED FORM,MEDIAL FORM+TAN ISOLATED FORM%FATHA ISOLATED FORM,MEDIAL FORM
%KASRA ISOLATED FORM,MEDIAL FORM+TAN ISOLATED FORM%SUPERSCRIPT ALEF ISOLATED FORM
sEEN WITH ALEF MAKSURA FINAL FORM>ISOLATED FORM$HAH FINAL FORM)INITIAL FORM*SOLATED FORM
)MEDIAL FORM)WITH MEEM FINAL FORM?INITIAL FORM:YEH FINAL FORM%EH INITIAL FORM)MEDIAL FORM
$JEEM FINAL FORM*INITIAL FORM+SOLATED FORM*MEDIAL FORM*WITH YEH FINAL FORM$KHAH FINAL FORM
*INITIAL FORM+SOLATED FORM*MEDIAL FORM$MEEM FINAL FORM*INITIAL FORM+SOLATED FORM*MEDIAL FORM
*WITH KHAH FINAL FORM@INITIAL FORM;MEEM FINAL FORM@INITIAL FORM$REH FINAL FORM)ISOLATED FORM
$YEH FINAL FORM)ISOLATED FORMrUBHAANAHU WA TAAALAAqTABAARAKA WA-TAAALAA
sH WITH ALEF MAKSURA FINAL FORM<ISOLATED FORMzHAH INITIAL FORM(SOLATED FORMzMEEM INITIAL FORM
)SOLATED FORM(MEDIAL FORM(WITH HAH FINAL FORM=INITIAL FORM.MEEM INITIAL FORM.YEH FINAL FORM
zYEH FINAL FORM&ISOLATED FORMrEH WITH ALEF MAKSURA FINAL FORM<ISOLATED FORMzHAH INITIAL FORM
(SOLATED FORM&WITH JEEM FINAL FORM=INITIAL FORM,MEEM INITIAL FORM!EH INITIAL FORM&MEDIAL FORM
zJEEM INITIAL FORM)SOLATED FORM(WITH ALEF MAKSURA FINAL FORM.MEEM INITIAL FORM.YEH FINAL FORM
zKHAH INITIAL FORM)SOLATED FORM(WITH ALEF MAKSURA FINAL FORM.MEEM INITIAL FORM.YEH FINAL FORM
zMEEM FINAL FORM(INITIAL FORM)SOLATED FORM(MEDIAL FORM(WITH ALEF MAKSURA FINAL FORM
.HAH INITIAL FORM.JEEM INITIAL FORM.KHAH INITIAL FORM.YEH FINAL FORMzNOON FINAL FORMzREH FINAL FORM
zYEH FINAL FORM&ISOLATED FORMzZAIN FINAL FORMrHAL WITH SUPERSCRIPT ALEF ISOLATED FORM
sEH WITH ALEF MAKSURA FINAL FORM=ISOLATED FORM!HEH MEDIAL FORM!JEEM ISOLATED FORM!MEEM FINAL FORM
)INITIAL FORM*SOLATED FORM)MEDIAL FORM!NOON FINAL FORM!REH FINAL FORM!YEH FINAL FORM(ISOLATED FORM
!ZAIN FINAL FORMqUIGHUR KIRGHIZ YEH WITH HAMZA ABOVE WITH ALEF MAKSURA FINAL FORM
~ABOVE WITH ALEF MAKSURA INITIAL FORM~ABOVE WITH ALEF MAKSURA ISOLATED FORMqWASALLAM ISOLATED FORM
qYEH WITH ALEF MAKSURA FINAL FORM<ISOLATED FORMzHAH INITIAL FORM(SOLATED FORM&WITH YEH FINAL FORM
$MZA ABOVE WITH AE FINAL FORM|ISOLATED FORM^LEF FINAL FORM~ ISOLATED FORM~ MAKSURA FINAL FORM
~ MAKSURA ISOLATED FORM@E FINAL FORM_INITIAL FORM|SOLATED FORM@HAH INITIAL FORM~ISOLATED FORM
^EH INITIAL FORM~MEDIAL FORM@JEEM INITIAL FORM~ ISOLATED FORM@KHAH INITIAL FORM@MEEM FINAL FORM
~ INITIAL FORM~ ISOLATED FORM~ MEDIAL FORM@NOON FINAL FORM@OE FINAL FORM|ISOLATED FORM
@REH FINAL FORM@U FINAL FORM_ISOLATED FORM@WAW FINAL FORM~ISOLATED FORM@YEH FINAL FORM
~ISOLATED FORM^U FINAL FORM|ISOLATED FORM@ZAIN FINAL FORM!EH INITIAL FORM&MEDIAL FORM
zJEEM INITIAL FORM)SOLATED FORM(WITH YEH FINAL FORMzKHAH INITIAL FORM)SOLATED FORMzMEEM FINAL FORM
(INITIAL FORM)SOLATED FORM(MEDIAL FORM(WITH MEEM FINAL FORM>INITIAL FORM.YEH FINAL FORM
zNOON FINAL FORMzREH FINAL FORMzYEH FINAL FORM&ISOLATED FORMzZAIN FINAL FORM
qZAH WITH MEEM INITIAL FORM)SOLATED FORM(MEDIAL FORMhMADDA WAAJIBmH ABOVEjRK NOON GHUNNA
mSIDEWAYS NOON GHUNNAjTHEMATICAL AINvLEFuBEHuDADwLvOTLESS BEH%FEH%NOON%QAFwUBLE-STRUCK AIN,BEH,DAD
:L,FEH,GHAIN,HAH,JEEM,KHAH,LAM,MEEM,NOON,QAF,REH,SAD.EEN.HEEN,TAH.EH.HAL:EH,WAW,YEH,ZAH:INuFEH
uGHAINuHAHuINITIAL AIN%BEH%DAD%FEH%GHAIN%HAH&EH%JEEM%KAF&HAH%LAM%MEEM%NOON%QAF%SAD&EEN&HEEN%TEH&HEH
%YEHuJEEMuKAFvHAHuLAMvOOPED AIN%LEF$BEH$DAD&L$FEH$GHAIN$HAH%EH$JEEM$KHAH$LAM$MEEM$NOON$QAF$REH$SAD
%EEN%HEEN$TAH%EH%HAL&EH$WAW$YEH$ZAH&INuMEEMuNOONuOPERATOR HAH WITH DAL&MEEM WITH HAH WITH TATWEEL
uQAFuREHuSADvEENvHEENvTRETCHED AIN(BEH(DAD)OTLESS BEH<FEH(FEH(GHAIN(HAH)EH(JEEM(KAF)HAH(MEEM(NOON
(QAF(SAD)EEN)HEEN(TAH)EH)HEH(YEH(ZAHuTAHwILED AIN$DAD%OTLESS NOON.QAF$GHAIN$HAH$JEEM$KHAH$LAM$NOON
$QAF$SAD%EEN%HEEN$YEHvEHvHALwEHuWAWuYEHuZAHwINhNUMBER MARK ABOVEoSIGNhOPEN DAMMATANmFATHATAN
mKASRATANhPERCENT SIGNiIASTRE MARK ABOVEiLACE OF SAJDAHiOETIC VERSE SIGNjUND MARK ABOVE
hQUESTION MARKhRAISED ROUND DOTjYiEVERSED DAMMAiIGHT ARROWHEAD ABOVE% WITH DOTxBELOW
iOUNDED HIGH STOP WITH FILLED CENTREhSEMICOLONiHADDAn ISOLATED FORMoMEDIAL FORMiIGN ALAYHE ASSALLAM
mMISRAmRADI ALLAHOU ANHUoHMATULLAH ALAYHEmSAFHAoLLALLAHOU ALAYHE WASSALLAMoMVAToNAHnINDHI AMPERSAND
tPOSTPOSITION MENmTAKHALLUSiMALL DAMMAnFARSI YEHpTHAnHIGH AINsDOTLESS HEAD OF KHAHsFARSI YEH
tOOTNOTE MARKERsJEEMsLAM ALEFtIGATURE ALEF WITH LAM WITH YEH$QAF WITH LAM WITH ALEF MAKSURA
$SAD WITH LAM WITH ALEF MAKSURAsMADDAtEEM INITIAL FORMySOLATED FORMsNOONw WITH KASRAsQAF
sROUNDED ZEROsSADtEENtIGN SAFHAsTAHtHREE DOTSsUPRIGHT RECTANGULAR ZEROsWAWtORD AL-JUZyN-NISFyR-RUB
yS-SAJDAyTH-THALATHAxQIFxSAHzKTAxWAQFAsYEHv BARREE WITH TWO DOTS BELOWsZAHuINnKASRAnLOW MEEM
rNOON WITH KASRArSEENrWAWsORD IMAALAxSHMAAMwTASHEELnWAWnYEHiTART OF RUB EL HIZBiUBSCRIPT ALEFjKUN
m BELOWnISOLATED FORMnMEDIAL FORMjPERSCRIPT ALEF MOKHASSASiYMBOL DOT ABOVEsBELOW
qUBLE VERTICAL BAR BELOWoFOUR DOTS ABOVEyBELOWoRINGoSMALL TAH ABOVEyBELOWoTHREE DOTS ABOVEzBELOW
zPOINTING DOWNWARDS ABOVE_BELOWpWO DOTS ABOVExBELOWxVERTICALLY ABOVE,BELOWoWASLA ABOVE
hTAIL FRAGMENTjTWEELo WITH FATHATAN ABOVEuOVERSTRUCK HAMZA)WAWuTWO DOTS BELOWiHOUSANDS SEPARATOR
iONE LOOP ABOVErBELOWmONE DOT ABOVEuBELOWmTWO DOTS ABOVEvBELOWiRIPLE DOT PUNCTUATION MARK
iURNED DAMMA BELOWhVERTICAL TAILiOWEL SIGN DOT BELOWsINVERTED SMALL V ABOVEsSMALL V ABOVE
hWAVY HAMZA BELOWhZWARAKAYg-INDIC CUBE ROOTnDIGIT EIGHTtFIVEuOURtNINEtONEtSEVENuIXtTHREEuWOtZERO
nFOURTH ROOTnPER MILLE SIGNrTEN THOUSAND SIGNcCcIEScMENIAN ABBREVIATION MARKkPOSTROPHE
jCAPITAL LETTER AYByBENyCAzHA!EHzOyDAyECHzHzTyFEHyGHADzIMyHOyINIyJAzHEHyKEH!NyLIWNyMENyNOWyOHyPEH
zIWRyRAzEHySEHzHAyTIWNzOyVEWzOyXEHyYI!WNyZAzHEkOMMAjDRAM SIGNjEMPHASIS MARKkXCLAMATION MARK
jFULL STOPjHYPHENjMODIFIER LETTER LEFT HALF RINGjQUESTION MARKjSMALL LETTER AYBwBENwCAxHAyEHxOwDA
wECHxHxTwFEHwGHADxIMwHOwINIwJAxHEHwKEHyNwLIWNwMENwNOWwOHwPEHxIWRwRAxEHwSEHxHAwTIWNxOxURNED AYBwVEW
xOwXEHwYIy WITH STROKEyWNwZAxHEqIGATURE ECH YIWNyMEN ECH%INI%NOW%XEHyVEW NOW
cROW POINTING DOWNWARDS THEN CURVING LEFTWARDS<RIGHTWARDSpRIGHTWARDS THEN CURVING DOWNWARDS
=SOUTH WEST=UPWARDSpUPWARDS THEN NORTH WESTfHEAD-SHAPED POINTERcTICULATED LORRYeST PALETTE
bSCENDING NODEdIA SYMBOLcSERTIONcTERISKi OPERATORhMdONISHED FACEdRAEAeONOMICAL SYMBOL FOR URANUS
cYMPTOTICALLY EQUAL TObTHLETIC SHOEcOM SYMBOLbUBERGINEcSTRAL SIGNcTO RICKSHAWeMATED TELLER MACHINE
fOBILEbVESTAN ABBREVIATION MARKiLETTER AqArNrOqErEqNqOpBEqHEpCEpDEqHEpEqEpFEpGEqGEqHEpHEqMEpIqIpJE
pKEpLEpMEpNEqGErVErYEqNEqYEpOqOpPEpREpSEqHErYEqSHEpTEqHEqTEpUqUpVEpXEqVEqYEpYEqYEpZEqHEcOCADObXE
aBABYe ANGELfBOTTLEfCHICKfSYMBOLcCK OF ENVELOPEfWITH LEFTWARDS ARROW ABOVE
e-TILTED SHADOWED WHITE RIGHTWARDS ARROWeSLANTED SOUTH ARROW WITH HOOKED TAIL)RIZONTAL TAILfPACEdON
dTRIAN CAMELcDGERdMINTON RACQUET AND SHUTTLECOCKcGELdGAGE CLAIMdUETTE BREADcLINESE ADEG ADEG
jCARIK PAMUNGKAHrRERENpSIKIjDIGIT EIGHTpFIVEqOURpNINEpONEpSEVENqIXpTHREEqWOpZEROjLETTER AIKARArKARA
v TEDUNGrRCHAIC JNYArSYURA SASAKqBAs KEMBANGqCAs LACAqDAs MADUuURDA ALPAPRANAzMAHAPRANAqEF SASAK
rKARAqGAs GORAqHAqIKARAv TEDUNGqJAs JERAqKAs MAHAPRANAsF SASAKrHOT SASAKqLAs LENGAy TEDUNGqMAqNA
s RAMBATrGArYAqOKARAv TEDUNGqPAs KAPALqRAs REPAx TEDUNGqSAs SAGAvPAqTAs LATIKtMURDA MAHAPRANAtTAWA
rZIR SASAKqUKARAv TEDUNGqVE SASAKqWAqYAqZAL SASAKjMUSICAL SYMBOL COMBINING BENDE,ENDEP,GONG,JEGOGAN
,KEMPLI> WITH JEGOGAN<UL> WITH JEGOGAN,TEGEHyDAENG!ING!NG% GEDE&SURANGzENG!UNGzINGzONGzUNG
yLEFT-HAND CLOSED PLAK^UK,OPEN PANG>ING>UNGyRIGHT-HAND CLOSED TAK^UK.OPEN DAG?UGjPAMADAp LANTANG
mENENGlNTIo LANTANGjSIGN BISAHoCECEKoREREKANoSURANGoULU CANDRAsRICEMjVOWEL SIGN LA LENGA% TEDUNG
uPEPETz TEDUNGuRA REPA$ TEDUNGuSUKUy ILUTuTALING! REPA) TEDUNG$TEDUNGvEDUNGuULUx SARIjWINDU
dL OF YARNeET SHOESeOONh-SPOKED ASTERISKfT BOLD SCRIPT XjXk WITH BALLOTrOLD CHECKvSCRIPT XqCHECK
qLIGHT XqSCRIPT XqXhSCRIPT XhXcMUM COLONiMBINING MARK KOQNDONvTUKWENTISjMAgFULL STOPgLETTER AnEE
nFAAMAEoEEoOMoUnInKAoENpTpUXoIoOpGHOMpVUUoPAoUoYEEnLAoEEEEoIoOQoUnMoAoBAApENoEEEEpNoIoOoUnNAoDAAoGA
pGApKWAENoIoJAEMpEEpUAEoSHAoTEEpUUoUpAEoYInOnPAoEEpUXoHASE-A FIRIvGBIEE FONwHEUAEGHEUAE$RAEvKAFAxQ
wETxUKEUTNDAwPOQwUOQvLAPAQwET KUTwOMMAEwUxAEPvMAEKEUPyMzBGBIEEzKPENzVEUXyNYIySIxNSUAExP PIEETwBANYI
yQwEUNJOMNDEUQwGBASAwON NGGEUAETxOMEUTzPUQwVEUAENGAMvNAA MFONxQwDA LEERAEWAyANGGEUAETwENwGANGUxGEN
xKUE MFON!NZEUMwIKAwJAMwKAARAExINDIwSHAyIEEwTAPz MFAA!NTAAxOQPENwYETxIyT MONGKEUAEQwZA MFONxUN MEUT
vPA LEERAEWAxAMyRAExMSHAExSHAEwETwON MFON PIPAEMBA:GBIEEzPA NJI PIPAEMBA<GBIEEwUPvROMvSEUNYAM
wHINDA PA NJIyRAExOQ NSHUT YUMxUENSHUETyMwISAwONJAMxQxTwUUvTEUAENyTEUWENwITA MFONwU MAEMBAxAEP
vU YUQ NAEwNKNOWNvVEEtB FEExUXvGHEUGHEN%UAEMvKAMwEUAEMyPUQyYEUXwIEEMxQvLAANAExM NSHUT NYAMwET
wOM NTEUMvMAx NJEUAENA!UQAwBA MAELEEyARAExEURIxIT MBAAKETxUOQwEUQyT NGGEETwFIYAQxON TEUAEQwONTIEEN
vNDU NJAAwGGAAMyEU MBUyUOQ$ LARGExKINDI MVOPxOMwSENxHUETwTIEE SHEUOQwYAEMAExI NTEUMvPARUMwEESHIwIT
wUNGAAMvSAKEUAEwET TUwHET NJAQyUAEQTUwIEEwUEvTAAMwU MAEMGBIEEyNSIEEvVEUMvWUAETvYAFU LEERAEWAwEURAE
tC BUNGvFUEvGBAYIwHAPyRAEvKAAwEN FATIGUEzLAWxTxUKAQyMySEUXzHEUAEPwPARAQwUOP NKAARAExTvLAMxPwIQwU
vMA KEUAERIyNSIEExEMBAySIwBAA CABBAGE-TREE!PICKETyNYIxEEKEETyRAEyUMzXxIyRIEENyTxUAEMyEwGBASAQwIEE
wUAEvNANSANAQxQwDAMyPxEUAEREEzTxIDAxOMBUwGAQxGENyUzAEN NYAMzEETzMzONxKAQyUE MAEMBAxOMwJAEMyMxEEEE
yUXxUEQwSAxEUAENxHAQxOMxUNyOT NGOMwTAAxENyUNGBAxU MBITwYIR MKPARAQ MEUNwZAxEUMvPENwINxRIEENvRU
vSETFONxUXwHIQxUEQwUAETvTAASHAEwETxUTEUXwITA YUEyUAEPvVEUAEPENyXvWANGKUOQwUPvYAAwEUQwU MUOMAExMxWOQ
tD FAAwEUFEUAETvGHAAxEUAEvKETxUAETMEUNyMyOT MBUAEyPwUxNxOMxQwWAETwYEEvLEEEExTxUAEPyMwIEEwOQwUMvM
wAENJETxLEERIwBAAz SEVENxUOwEEEExUNyTwFEUAEzTxIEExOyNwGBEUNyIEEyOFUMwONIwUwVOPvNDAMxEEyUXxONwGGAAM
$AEzPyEUXyUOMyWAENxKAPyEUAEQ!RIyIEEyUNyYEEwIwJAPxEUAEMzTxIyEExUEQwSHEEyUTxIEEP!TxUMwTEEyUMxUUwUwYAM
xETxIxUEvPAPwEExUTAEwIPwUQxUTvRAEMwEN MUCHzOLDwIIvSAPxQwEUAEQwHEEyUAEzXxIIxOQxUwOTwUAExExUvTAEwEEEE
xUAENyNyTwIwOQwUxOTvWAPwUAENvYAEMMAEwENwUOMyPxWOQtE AvFAxQwEEwOMwU CALLyIyREMEDYxEyTvGBETyUXwHAAMAE
xETyUAEzNzXxOMvIvKETxUAEyXwIwOwPEUXwUETxOPxTvLAAMxPxQwEUAEMwOMxONyTxQwUvMAxEyMxPxQwBEEyUMwENwFEUQ
wGBAyENwIxEEwONwUAEwVIvNAxEwDAA MY HOUSE!SOFTNESSyPxIAQyQxUNwGAxEUREUTxGEEEEzUAE%TyUAESHAE NYAMzP
zRAExKAzAMIyEUAEM!XyUMzPxOPyQxUAE!TwJAEMLIxEEz EPOCHyUXwKOMwSHIEEyUEzOPwTAPxUMwYI BETWEENzCLEAVER
wZAQxUQvOvPA PEOPLEzLURALxAyMwEEMxUTyXwIxEEQyTwOxONwUxAEyQxExMvRAExQwEUXwIMGBAvSAAwEExTwHEUAEQxIQxO
yQwOMwUAENvTAAyQxEN NTEUMxMxQwENxUyAEQwOOyNxQwUAExMyAEvVEExUAEwOMvWEUXwUExOvYAPwEUAE!TyMyXwIEExT
wOQ COVERzSWIMMINGwUAENxEQxNxQtF EEvFOMvKAwENxTwOwPAwUwYEEvLAwIwOQvMwAwBAAxENwEEEEwOvNDAAwGGAxKWAEN
wIwJAEMxUAEwSHAwTEEwUxAEwYIvPEExUXwUAEvREExNxUXwIEExIwUvSAMBAwEUXwHIIxOxUwIwUUvTAAxEwETvUvVUEQvWA
wUEvYAwOQoIoUAEpEnRAEoEEpNpUXoIEEpIoUnSAMBAoEUXoHEUXpIIpOpUoIoUUnTAApEoENpToInUnWAoUEnYAoOQoUQ
gNJAEMLIgQUESTION MARKgSEMICOLONcNANAdJOdKeNOTE WITH DOLLAR SIGNoEURO SIGNoPOUND SIGNoYEN SIGN
cR CHARTeOF SOAPdBER POLEcSEBALLdKETgBALL AND HOOPdSA VAH COMBINING HIGH TONEy-LOW TONEuLOW TONE
x-MID TONEuMID TONEkFULL STOPkLETTER ArBArCErDHIIsOrEsEsNNIrFArGAHsBUrHWAHrIrJOrKAsPAHrMBErOsOrPA
rSErTOrUsWUrVUrWAtDDArYEINsIErZOcTdAK CONSONANT SIGN HvNGgLETTER AnBAnCAnDAnGAnHAnInJAnKARO BAnLA
nMApNDAILING HAyNAySAoBAnNAoDAoGAoORTHERN TAoYAnPApKPAK WAnRAnSAoIMALUNGUN AyGAyHAyLAyMAyPAyRAySA
yWAyYAoOUTHERN TAnUnWAnYAgPANGOLATjONGONANgSIGN TOMPIhYMBOL BINDU JUDULtNA METEKtPANGOLATuINARBORAS
gVOWEL SIGN EsErIrKARO IwOrOrPAKPAK ErUs FOR SIMALUNGUN SAdHeTUBdTERYbEACH WITH UMBRELLA
dMED ASCENDING MUSICAL NOTEShDESCENDING MUSICAL NOTEShEIGHTH NOTEShSIXTEENTH NOTESdNSdR FACE
eDED PERSONdTING HEARTdVERcCAUSEcDcER MUGdTLEcLdLe PEPPERfSYMBOLfWITH CANCELLATION STROKEeHOP BELL
cNGALI ABBREVIATION SIGNjNJIjU LENGTH MARKiCURRENCY DENOMINATOR SIXTEENrNUMERATOR FOUR$ONE
( LESS THAN THE DENOMINATOR$THREE%WOiDIGIT EIGHToFIVEpOURoNINEoONEoSEVENpIXoTHREEpWOoZERO
iGANDA MARKiISSHARiLETTER AqAqIqUpBAqHApCAqHApDAqDArHAqHApEpGAqHApHApIqIpJAqHApKAqHAsNDA TArINYApLA
pMApNAqGAqNAqYApOpPAqHApRAr WITH LOWER DIAGONALxMIDDLE DIAGONALqHAqRApSAqHAqSApTAqHAqTArHApUqU
pVEDIC ANUSVARAqOCALIC LyLxRyRpYAqYAiRUPEE MARKoSIGNiSANDHI MARKjIGN ANUSVARAoVAGRAHAnCANDRABINDU
nNUKTAnVIRAMApSARGAiVOWEL SIGN AAuIuUtEtIuItOtUuUtVOCALIC L%L$R%R
dT ARROW POINTING DOWNWARDS THEN NORTH EASTeO BOXdZENE RINGm WITH CIRCLEcT SYMBOLdWEENcVERAGE BOX
bHAIKSUKI DANDAlIGIT EIGHTqFIVErOURqNINEqONEqSEVENrIXqTHREErWOqZEROlOUBLE DANDAkGAP FILLER-1v2
kHUNDREDS UNIT MARKkLETTER AsAsIsUrBAsHArCAsHArDAsDAtHAsHArErGAsHArHArIsIrJAsHArKAsHArLArMArNAsGA
sNAsYArOrPAsHArRArSAsHAsSArTAsHAsTAtHArUsUrVAsOCALIC LzR!RrYAkNUMBER EIGHTwYrFIFTYtVEsORTYtURrNINE
vTYrONErSEVENwTYsIXuTYrTENsHIRTYtREEsWENTYtOkSIGN ANUSVARAqVAGRAHApCANDRABINDUpVIRAMArSARGA
kVOWEL SIGN AAwIwUvEvIwIvOvUwUvVOCALIC L&R(RkWORD SEPARATORbICYCLEgISTcG REVERSE SOLIDUSeSOLIDUS
cKINIcLLED CAPeIARDScOHAZARD SIGNcRDdTHDAY CAKEcSONcTCOIN SIGNdING LIPbLACK BOWTIE
gCENTRE WHITE STARhHESS BISHOPs ROTATED NINETY DEGREES$TWO HUNDRED SEVENTY DEGREESmEQUIHOPPER
w ROTATED NINETY DEGREESmKINGq ROTATED NINETY DEGREESzTWO HUNDRED SEVENTY DEGREESnNIGHT
s ROTATED FORTY-FIVE DEGREES$NINETY DEGREES$ONE HUNDRED THIRTY-FIVE DEGREES
$THREE HUNDRED FIFTEEN DEGREES%WO HUNDRED SEVENTY DEGREES=TWENTY-FIVE DEGREESs-BISHOPtQUEENtROOK
mPAWNq ROTATED NINETY DEGREESzTWO HUNDRED SEVENTY DEGREESmQUEENr ROTATED NINETY DEGREES
!TWO HUNDRED SEVENTY DEGREESmROOKq ROTATED NINETY DEGREESzTWO HUNDRED SEVENTY DEGREESmTURNED BISHOP
tKINGuNIGHTtPAWNtQUEENtROOKhIRCLEm FOR RECORDnWITH DOWN ARROWsTWO WHITE DOTSsWHITE DOT RIGHT
hLUB SUIThROSS ON SHIELDhURVED DOWNWARDS AND LEFTWARDS ARROW$RIGHTWARDS ARROW
nLEFTWARDS AND DOWNWARDS ARROW$UPWARDS ARROWnRIGHTWARDS AND DOWNWARDS ARROW%UPWARDS ARROW
nUPWARDS AND LEFTWARDS ARROWzRIGHTWARDS ARROWgDIAMONDn CENTREDoMINUS WHITE XoON CROSSoSUIT
oWITH DOWN ARROWhOWN POINTING BACKHAND INDEXk-POINTING DOUBLE TRIANGLEuISOSCELES RIGHT TRIANGLE
uSMALL TRIANGLEuTRIANGLEkWARDS EQUILATERAL ARROWHEADhRAUGHTS KINGpMANiOPLETgFLAGiORETTEhOLDER
iUR POINTED STARgHARD SHELL FLOPPY DISKhEARTl SUITiXAGONhORIZONTAL ELLIPSEiURGLASSgLARGE CIRCLE
mSQUAREhEFT LANE MERGElPOINTING BACKHAND INDEXuINDEXk-POINTING DOUBLE TRIANGLE. WITH VERTICAL BAR
uISOSCELES RIGHT TRIANGLEuPOINTERuSMALL TRIANGLEuTRIANGLEkWARDS BULLETqEQUILATERAL ARROWHEAD
hOWER LEFT TRIANGLEmRIGHT TRIANGLEiZENGEgMEDIUM DIAMONDoOWN-POINTING TRIANGLE. CENTRED
nLEFT-POINTING TRIANGLE. CENTREDoOZENGEnRIGHT-POINTING TRIANGLE: CENTREDnSMALL DIAMONDtLOZENGE
tSQUAREoQUAREnUP-POINTING TRIANGLE+ CENTREDhOON LILITHgNIBgOCTAGONgPARALLELOGRAMhENNANTjTAGON
hUSHPINgQUESTION MARK ORNAMENTgRECTANGLEhIGHT POINTING BACKHAND INDEXvINDEX
l-POINTING DOUBLE TRIANGLE: WITH VERTICAL BARvISOSCELES RIGHT TRIANGLEvPENTAGONwOINTER
vSMALL TRIANGLEvTRIANGLE& WITH DOUBLE VERTICAL BARlWARDS ARROWwHEADrBULLETrEQUILATERAL ARROWHEAD
hOSETTEgSAFETY SCISSORShCISSORShHOGI PIECEhKULL AND CROSSBONEShLIGHTLY SMALL CIRCLEvSQUARE
hMALL DIAMONDmLOZENGEmSQUAREnTARiILING FACEhNOWMANhPADE SUIThQUAREm BUTTONnCENTREDnFOR STOPhTAR
hUN WITH RAYSgTELEPHONEhINY DIAMONDlLOZENGElSQUAREhOUCHTONE TELEPHONEhRUCKhWO-WAY LEFT WAY TRAFFIC
gUNIVERSAL RECYCLING SYMBOLhP POINTING BACKHAND INDEXi-POINTING DOUBLE TRIANGLE
sISOSCELES RIGHT TRIANGLEsSMALL TRIANGLEsTRIANGLEiPER LEFT TRIANGLEmRIGHT TRIANGLE
iWARDS EQUILATERAL ARROWHEADgVERTICAL ELLIPSEpRECTANGLEjY SMALL DIAMONDrLOZENGErSQUARE
f-FEATHERED NORTH EAST ARROWqRIGHTWARDS ARROWqSOUTH EAST ARROWgLETTER CAPITAL CvHvIvRvZdNK SYMBOL
cOCK SEXTANT-1p2q3r4s5s6r5s6r6q4r5s6r6q5r6q6p3q4r5s6r6q56q6p4q5r6q6p5q6p6o2p3q4r5s6r6q5r6q6p4q5r6p5
q6p6o3p4q5r6q6p5q6p6o4p5q6p6o5p6o6dSSOMdWFISHcUE BOOKfHEARTeBERRIESbOARcLD EIGHT SPOKED ASTERISK
fFIVE SPOKED ASTERISKfGREEK CROSSfSALTIREgIX SPOKED ASTERISKfWHITE CIRCLElSQUAREcMdBcNEcOKeMARK
i TABSeSdMERANGcPOMOFO FINAL LETTER GwHwKwPwTjLETTER ArHrIsNNrMrNsGsNrUsNNqBrUqCrHqDqErErHrIrNsGsN
rRqFqGrHrNrUrWqHqIrHrMrNNtNrRrUqJrIqKrWqLrHqMqNrGsGrNqOr WITH DOT ABOVErErMrNGsNrOrUqPqQqRqSrHqTqU
rNNqVqXqZrHrIrYcTTLE WITH POPPING CORKeOM ARC ANTICLOCKWISE ARROWhCURLY BRACKEThHALF BLACK CIRCLE
mINTEGRALmLEFT PARENTHESISmRIGHT PARENTHESIShLEFT CORNERnROPmHALF BRACKEThPARENTHESIShRIGHT CORNER
oROPnHALF BRACKEThSQUARE BRACKETv OVER TOP SQUARE BRACKEThTORTOISE SHELL BRACKETcUQUETh OF FLOWERS
cW AND ARROWdL OF HYGIEIAfWITH SPOONeINGdTIEg WITH LEFT HALF BLACKmRIGHT HALF BLACK
cX DRAWINGS DOUBLE DOWN AND HORIZONTAL&LEFT&RIGHTuHORIZONTALuUP AND HORIZONTAL$LEFT$RIGHTuVERTICAL
% AND HORIZONTAL+LEFT+RIGHTpWN DOUBLE AND HORIZONTAL SINGLE&LEFT SINGLE&RIGHT SINGLE
sHEAVY AND HORIZONTAL LIGHT%LEFT LIGHT+UP LIGHT%RIGHT LIGHT,UP LIGHT%UP HORIZONTAL LIGHT
sLIGHT AND HORIZONTAL HEAVY%LEFT HEAVY+UP HEAVY%RIGHT HEAVY,UP HEAVY%UP HORIZONTAL HEAVY
sSINGLE AND HORIZONTAL DOUBLE&LEFT DOUBLE&RIGHT DOUBLEnHEAVY DOUBLE DASH HORIZONTAL)VERTICALvWN
x AND HORIZONTAL%LEFT%RIGHTtHORIZONTALtLEFTx AND LIGHT RIGHTtQUADRUPLE DASH HORIZONTAL,VERTICAL
tRIGHTtTRIPLE DASH HORIZONTAL)VERTICALtUPv AND HORIZONTAL!LEFT$IGHT DOWN!RIGHTtVERTICAL
$ AND HORIZONTAL*LEFT*RIGHTnLEFT DOWN HEAVY AND RIGHT UP LIGHTsHEAVY AND RIGHT DOWN LIGHT,UP LIGHT
,VERTICAL LIGHTsLIGHT AND RIGHT DOWN HEAVY,UP HEAVY,VERTICAL HEAVYsUP HEAVY AND RIGHT DOWN LIGHT
oIGHT ARC DOWN AND LEFT*RIGHTxUP AND LEFT(RIGHTtDIAGONAL CROSS%DIAMOND%MIDDLE LEFT TO LOWER CENTRE
~ER CENTRE TO MIDDLE RIGHT^UPPER CENTRE TO MIDDLE RIGHT~ER CENTRE TO MIDDLE RIGHT TO LOWER CENTRE
.RIGHT TO LOWER CENTRE_UPPER CENTRE TO MIDDLE LEFT TO LOWER CENTRE%UPPER CENTRE TO MIDDLE LEFT
~DDLE LEFT AND MIDDLE RIGHT TO LOWER CENTRE~DDLE LEFT TO LOWER CENTRE
~DDLE LEFT TO LOWER CENTRE TO MIDDLE RIGHT~DDLE RIGHT~DDLE RIGHT AND MIDDLE LEFT TO LOWER CENTRE
~DDLE RIGHT TO LOWER CENTRE~DDLE RIGHT TO LOWER CENTRE TO MIDDLE LEFT,LEFT TO LOWER RIGHT
,RIGHT TO LOWER LEFTuOUBLE DASH HORIZONTAL)VERTICALvWNx AND HORIZONTAL%LEFT%RIGHTtHORIZONTAL
& WITH VERTICAL STROKEtLEFTx AND HEAVY RIGHTtQUADRUPLE DASH HORIZONTAL,VERTICALtRIGHT
tTRIPLE DASH HORIZONTAL)VERTICALtUPv AND HEAVY DOWN$ORIZONTAL!LEFT!RIGHTtVERTICAL$ AND HORIZONTAL
*LEFT*RIGHTnRIGHT DOWN HEAVY AND LEFT UP LIGHTtHEAVY AND LEFT DOWN LIGHT,UP LIGHT,VERTICAL LIGHT
tLIGHT AND LEFT DOWN HEAVY,UP HEAVY,VERTICAL HEAVYtUP HEAVY AND LEFT DOWN LIGHT
nUP DOUBLE AND HORIZONTAL SINGLE$LEFT SINGLE$RIGHT SINGLEqHEAVY AND DOWN HORIZONTAL LIGHT
!HORIZONTAL LIGHT!LEFT DOWN LIGHT)LIGHT!RIGHT DOWN LIGHT*LIGHTqLIGHT AND DOWN HORIZONTAL HEAVY
!HORIZONTAL HEAVY!LEFT DOWN HEAVY)HEAVY!RIGHT DOWN HEAVY*HEAVYqSINGLE AND HORIZONTAL DOUBLE
$LEFT DOUBLE$RIGHT DOUBLEnVERTICAL DOUBLE AND HORIZONTAL SINGLE+LEFT SINGLE+RIGHT SINGLE
wHEAVY AND HORIZONTAL LIGHT*LEFT LIGHT*RIGHT LIGHTwLIGHT AND HORIZONTAL HEAVY*LEFT HEAVY
*RIGHT HEAVYwSINGLE AND HORIZONTAL DOUBLE+LEFT DOUBLE+RIGHT DOUBLEdING GLOVEcYdS SYMBOLbPH
bRAHMI DANDAiIGIT EIGHTnFIVEoOURnNINEnONEnSEVENoIXnTHREEoWOnZEROiOUBLE DANDAhLETTER ApApIpUoBApHA
oCApHAoDApDAqHApHAoEoGApHAoHAoIpIoJApHAoKApHAoLApLAoMAoNApGApNApYAoOpLD TAMIL LLA!LAyNNNAyRRA
ySHORT E(OoPApHAoRAoSApHApSAoTApHApTAqHAoUpUoVApOCALIC LxLwRxRoYAhNUMBER EIGHTtYoFIFTYqVEpORTYqUR
oJOINERoNINEsTYoONEr HUNDREDsTHOUSANDoSEVENtTYpIXrTYoTENpHIRTYqREEpWENTYqOhPUNCTUATION CRESCENT BAR
tDOTvUBLE DOTtLINEuOTUShSIGN ANUSVARAmCANDRABINDUmJIHVAMULIYAmOLD TAMIL VIRAMAmUPADHMANIYAmVISARGA
hVIRAMAiOWEL SIGN AAtItUsBHATTIPROLU AAsEsItIsOtLD TAMIL SHORT E,OsUtUsVOCALIC L$L!R$R
dILLE PATTERN BLANKqDOTS-1w2x3y4z5!6$7%8$8!7$8!8z6!7$8!8z7!8z8y5z6!7$8!8z7!8z8y6z7!8z8y7z8y8x4y5z6
!7$8!8z7!8z8y6z7!8z8y7z8y8x5y6z7!8z8y7z8y8x6y7z8y8x7y8x8w3x4y5z6!7$8!8z7!8z8y6z7!8z8y7z8y8x5y6z7!8
z8y7z8y8x6y7z8y8x7y8x8w4x5y6z7!8z8y7z8y8x6y7z8y8x7y8x8w5x6y7z8y8x7y8x8w6x7y8x8w7x8w8v2w3x4y5z6!7$8
!8z7!8z8y6z7!8z8y7z8y8x5y6z7!8z8y7z8y8x6y7z8y8x7y8x8w4x5y6z7!8z8y7z8y8x6y7z8y8x7y8x8w5x6y7z8y8x7y8
x8w6x7y8x8w7x8w8v3w4x5y6z7!8z8y7z8y8x6y7z8y8x7y8x8w5x6y7z8y8x7y8x8w6x7y8x8w7x8w8v4w5x6y7z8y8x7y8x8
w6x7y8x8w7x8w8v5w6x7y8x8w7x8w8v6w7x8w8v7w8v8eNcEADeK PERMITTED HEREeST-FEEDINGdVEcICKdDE WITH VEIL
eGE AT NIGHTdEFCASEfScOCCOLIdKEN BARhCIRCLE WITH NORTHWEST ARROWhHEARTdOMdWN HEARTbSbUBBLE TEAgS
cCKETcGdINESE END OF SECTIONjLETTER AqBAqCAqDAqGAqHAqJAqKAqLAqMArPAqNArGAsKArRArYAsCAqPAqRAqSAqTA
qVAqYAjPALLAWAjVOWEL SIGN AEuEuIuOuUcHID LETTER AnBAnDAnGAnHAnInKAnLAnMAnNAoGAnPAnRAnSAnTAnUnWAnYA
gVOWEL SIGN IrUcILDING CONSTRUCTIONcLLETg OPERATOReHORNi WITH SOUND WAVESeSEYEcRRITOcSd STOP
dT IN SILHOUETTEeS IN SILHOUETTEcTTERgFLYbYTE ORDER MARKcZANTINE MUSICAL SYMBOL AGOGI ARGI,OTERI
)GORGI.OTERI)MESI+TRIA)POLI ARGI:GORGI!NATRICHISMA$TIKENOKYLISMA+MA!PESO EKFONITIKON*XO NEO$LI
$ODERMA ARCHAION,NEO%STROFOI SYNDESMOS NEO:TELOUS ICHIMATOS,S. DIPLI:NEO%THEMA!RGON&SYNTHETON
$KTIKO DI+GA+KE+NI+PA+VOU+ZOzCHAMILI)ON$OREVMA ARCHAION,NEO$ROA KLITON)SPATHI)ZYGOSzDASEIA!IARGON
%STOLI APLI MEGALI>IKRI,DIPLI,THESEOS$ESIS APLI DYO DODEKATA*DIGRAMMOS EX DODEKATA
*MONOGRAMMOS TESSERA DODEKATA*TETARTIMORION+RIGRAMMOS OKTO DODEKATA.TIMORION$FTOGGOS OU$GORGON
+ PARESTIGMENON ARISTERA ANO~N ARISTERA KATO~N DEXIA%RAMMA GG$PLI( ARCHAION!YOzEKSTREPTON!LAFRON
!NARXIS KAI FTHORA VOU$DOFONON!PEGERMA!TERON ARGOSYNTHETON*PARAKALESMA!XO EKFONITIKON
zFANEROSIS DIFONIAS.MONOFONIAS.TETRAFONIAS!HTORA SKLIRON CHROMA VASIS!THORA ARCHAION
> DEYTEROU ICHOU*DIATONIKI DI@KE@NANA^I ANO|KATO@PA@ZO*ENARMONIOS ANTIFONIA*I YFESIS TETARTIMORION
*MALAKON CHROMA DIFONIAS~ MONOFONIAS*NAOS ICHOS+ENANO*SKLIRON CHROMA SYNAFI~ VASIS>DIATONON DI
zGENIKI DIESIS*YFESIS!ORGON ARCHAION*NEO ANO:KATO*PARESTIGMENON ARISTERA~DEXIA(SYNTHETON
%THMIKON N APLOUN<DIPLOUN!RONTHISMATAzICHADIN!MIDIARGON%FONON&THORA+ON!SAKIA TELOUS ICHIMATOS
$ON ARCHAION(NEOzKATAVA TROMIKON)SMA%HISTI!ENTIMA ARCHAION+NEO ANO;KATO;MESO*TA, ARCHAION.NEO ANO
=KATO=MESO!LASMA) ANO*KATO!ONTEVMA+ ALLO$RONIS$UFISMA!RATIMA ALLO,RCHAION+NEO*TA)OKOUFISMA*YPORROON
$EMASTI!YLISMAzLEIMMA DYO CHRONON*ENOS CHRONOU*IMISEOS CHRONOU*TESSARON CHRONON+RION CHRONON$MOI
!YGISMAzMARTYRIA ALLI DEYTEROS ICHOS=PROTOS ICHOS,DEYTEROS ICHOS,LEGETOS ICHOS,PLAGIOS ICHOS
@TETARTOS ICHOS.ROTOS ICHOS=VARYS ICHOS,TETARTOS ICHOS^LEGETOS ICHOS.RIFONIAS;TOS ICHOS,VARYS ICHOS
!IKRON ISONzNANAzOLIGON ARCHAION*NEO!MALON!XEIA DIPLI)EKFONITIKON)NEO(I ARCHAION!YRANISMA ARCHAION
.NEOzPARAKALESMA ARCHAION;NEO(LITIKI: ARCHAION;NEO%ICHON!ELASTON+ NEO$RISPOMENI$TASMA(TI)OKOUFISMA
!IASMA ARCHAION*NEO!SIFISTOLYGISMA+N, NEO+PARAKALESMA+SYNAGMA%LI&ONzRAPISMA!EVMAzSAXIMATA!EISMA
) NEO!IMANSIS ARSEOS> DISIMOU?TETRASIMOU@RISIMOU,THESEOS? DISIMOU@TETRASIMOU^RISIMOU!TAVROS
* APODEXIA$IGMA$RAGGISMATA!YNAGMA ARCHAION+META STAVROU+NEO%EVMA$RMA(TIKIzTELEIA$SSERA$TRAPLI!HEMA
( APLOUN(TISMOS ESO<XO%S KAI APOTHES$ITA!INAGMA!RIA%GORGON%PLI$OMIKOLYGISMA*N ALLO.RCHAION,NEO
*PARAKALESMA+SIFISTON*SYNAGMAzVAREIA DIPLI*EKFONITIKON*NEO)I ARCHAION$THYzXIRON KLASMAzYFEN ANO
(KATO%SIS APLI DYO DODEKATA*DIGRAMMOS EX DODEKATA*MONOGRAMMOS TESSERA DODEKATA
*TRIGRAMMOS OKTO DODEKATA.TIMORION!POKRISIS, DIPLI%RROI$SILIaCACTUScDA UNAdUCEUScLENDARdL ME HAND
cMERAg WITH FLASHdPINGcNdADIAN SYLLABICS AuAvIvYuIvVILIK BuNuTHAPASCAN M(SuYtBEAVER DENE L)R
uIBLE-CREE YuLACKFOOT A&E&I&KA(E(I(O&NA(E(I(O&O&S&W(A(E(I(OtCuAvAwIvRRIER CHA&E(E&I&O&U$DEE&NE GEE
(TAL S%I%LA&E(E&I&O&U%ZA&E(E&I&O&U$EE$GA&A%E&E%HA&E(E&I&O&U%I%O%U%WA&U$H%EE%I%WA&E(E&I&O&U$I
%NITIAL Z$JA%E&E%I%JA&E(E&I&O&U%O%U%WA$KHA&E(E&I&O&U%K&A&E(E&I&O&U$LA%E&E%HA&E(E&I&O&U%I%O%U$MA%E&E
%I%O%U$NA%E&E%G%I%O%U$P%A%E&E%I%O%U$RA%E&E%I%O%U$SA%E&E%H&A&E(E&I&O&U%I%O%U$THA&E(E&I&O&U%LA&E(E&HA
(E)E(I(O(U&I&O&U%SA&E(E&I&O&U%TA&E(E&I&O&SA(E)E(I(O(U&U$WA%E&E%I%O%U$YA%E&E%I%O%U$Z%A%E&E%I%O%UuE
uHI SIGNuIvIuOvOuWAwAvEvIwIvOwOtEuASTERN WuNtFuAvAwIuEuIvIvNAL ACUTEzBOTTOM HALF RINGzDOUBLE ACUTE
*SHORT VERTICAL STROKES$WN TACKzGRAVEzMIDDLE DOTzPLUSzRAISED DOT!IGHT HALF RING$NG
zSHORT HORIZONTAL STROKE!MALL RINGzTOP HALF RINGuOvOuULL STOPuWAAtGLOTTAL STOPtHKuYPHENtIuIuNtKuAvA
wIvYuEuIvIuOvOuWvAwAwYvEvIwIvOwOtLuAvAwIvYuEuHvAwAvIwIvOwOuIvIuOvOuWAwAvEvIwIvOwOtMuAvAwIvYuE
vDIAL L!RuHuIvIuOvOwSE-CREE SKuWAwAvEvIwIvOwOtNu-CREE THE%I&IuAvAwIvSKAPI CWAA$KWAA$MWAA$NWAA$S-W
%CWA%KW(A%PWA%TWA%WAA$TWAA$WAA%OO$YWAAvTTILIK HA(A&I(I&O(O%SHRA*A)I*I)O*OvYuEuGvAwAxIwIvIwIvOwOuHuI
vIuNGwAxAwIxIwOxOuOvOvYuUNAVIK H%A&A%E%I&I%O&OyUT HuWAwAvEvIwIvOwOtOuJIBWAY C$K$M$N%WI(I&O(O$P$S%H
$TuNuOuYtPuAvAwIvYuEuIvIuOvOvYuWAwAvEvIwIvOwOwYtQuAvAwIvIuIvIuOvOtRu-CREE RE$WEuAvAwIvYuEuIvIuOvO
uWAwAvEEvIwIvOwOtSuAvAwIvYwISI HA$E$I$O%O!JI$U%U!M!SHA%E%I%O&O%WE!TH!YIuEuHvAwAwYvEvIwIvOwOwYvWAxA
wEwIxIwOxOxYuIvIuOvOvUTH-SLAVEY KAH+EH+IH+OHvYuPAvEvIvOuWvAwAvEvIwIvOwOtTuAvAwIvYuEuHv-CREE TH&A(A
&E&I(I&O(OvAwAvEvIwIvOwOvWAxAwEuIvIuLHAwEwIwOxOwWEuOvOuTAvEvHwAxAwEwIwOxOwWEvIvOuWAwAvEvIwIvOwOuYA
vEvIvOtWAvAvYuEvST-CREE CWA*A)E)I*I)O*O&FWAA&KWA*A)E)I*I)O*O&L(A)A(E(O)O(WA*A)E)I*I)O*O&M(WA*A)E)I
*I)O*O&NWA*A)E&P(WA*A)E)I*I)O*O&R(A(E(I(O(WAA&SHWA+A*E*I+I*O+O(WA*A)E)I*I)O*O&THWAA(WA*A)E)I*I)O*O
&WA)A(E(I)I(O)O&Y(WA*A)E)I*I)O*OxERN WuIvIuOvOwDS-CREE FINAL TH(TH*A*E*I*O*WA,A+EE+I,I+O,OtY
u-CREE COO!KOO!LOO!MOO!NOO!OO!POO$WAA!SOO!TOO!W!YOOuAvAwIvYuEuIvIuOvOvYuWAwAvEvIwIvOwOdCEL
g CHARACTERhTAGgLATION XfRdDLEeYdNED FOODdOEcPITULUMdRICORNcR SLIDINGdD FILE BOXfINDEXk DIVIDERS
dE OFeTf INSERTION POINTdIAN LETTER Ap2oBoC-18q39oDp2oEp2oGp2oIpIoKp2oLpDq2oMpBq2q3q4oNpDpGpNoOoPp2
oQoRpRoSpHq2pSpTq2oTpTq2oUpUqUr2r3rUoXdONeUSEL HORSEdP STREAMEReENTRY SAWdRIAGE RETURNeOTcSTLEcT
d FACEi WITH TEARS OF JOYoWRY SMILEcUCASIAN ALBANIAN CITATION MARKtLETTER ALT$OR!BET!CAR%YN$HA&T%I
%OY$YAW&Y!DAT$YAN$ZAY%YAY!EB$YN!FAM!GHEYS$IM!HEYT!INYA$RB$WN!JAYN$HOX!KAR$IW!LAN$YIT!MAQ!NOWC!ON
!PEN$IWR!QAR%Y!RAT!SEYK$HA&K%OY!TAS$IWR$YAY!VEYZ!XEYN!YAYD$OWD!ZARL$HA%ILdTION SIGNbCHbEDI SIGNeLLA
cLTIC CROSScNT SIGNeRE LINE SYMBOLgLINE LOW LINElOVERLINEcRESbGJbHAINSeRdKMA AU MARKhDANDA
iIGIT EIGHTnFIVEoOURnNINEnONEnSEVENoIXnTHREEoWOnZEROiOUBLE DANDAhLETTER AAoBAApHAAoCAApHAAoDAApDAA
qHAApHAAoEoGAApHAAoHAAoIoJAApHAAoKAApHAAoLAApHAAoMAAoNAApGAApNAApYAAoPAApHAAoRAAoSAAoTAApHAApTAA
qHAAoUoVAAoWAAoYAApYAAhMAAYYAAhO MARKhQUESTION MARKhSECTION MARKiIGN ANUSVARAmCANDRABINDUmVISARGA
hVIRAMAiOWEL SIGN AtAtItUsEtIsItIsOtIsUtUdM CONSONANT SIGN FINAL H!M!NGuLAuRAuWAuYAfDIGIT EIGHT
lFIVEmOURlNINElONElSEVENmIXlTHREEmWOlZEROfLETTER AnImBAnBAnHAmCHAoHAmDAnDAnHAmEmFINAL CHsGsKsLsNtG
sPsRsSSsTsYmGAnHAmHAmImJAnHAmKAnHAmLAmMAnUEmNAnGAoUEnHAoJAoUEnUEmOmPAnHAnPAmRAmSAnSAmTAnHAmUmVAmYA
fPUNCTUATION DANDAsOUBLE DANDArSPIRALrTRIPLE DANDAfVOWEL SIGN AArIrUqEIqIrIqOrEqUrE
dRACTER TABULATIONu SETvWITH JUSTIFICATIONlIEeT WITH DOWNWARDS TRENDlUPWARDS TRENDy AND YEN SIGN
cECK MARKfER BOARDn FILLdERING MEGAPHONEeSE WEDGEdQUERED FLAGdROKEE LETTER AqDArErIrLArOrUrVqEqGArE
rIrOrUrVqHArErIrNArOrUrVqIqKAqLArErIrOrUrVqMArErIrOrUrVqNAsHrErIrOrUrVqOqQUAsEsIsOsUsVqSrArErIrOrU
rVqTArErIrLAsEsIsOsUsVrSAsEsIsOsUsVqUqVqWArErIrOrUrVqYArErIrOrUrVjSMALL LETTER AwDAxExIxLAxOxUxVwE
wGAxExIxOxUxVwHAxExIxNAxOxUxVwIwKAwLAxExIxOxUxVwMAxExIxOxUxVwNAyHxExIxOxUxVwOwQUAyEyIyOyUyVwSxAxExI
xOxUxVwTAxExIxLAyEyIyOyUyVxSAyEyIyOyUyVwUwVwWAxExIxOxUxVwYAxExIxOxUxVeRIESfY BLOSSOMdSTNUTcI RHO
dCKENdLDfREN CROSSINGdPMUNKdRONcOCOLATE BARdPSTICKSdRASMIAN LETTER ALEPHtYINsBETHsCURLED WAWsDALETH
sGIMELsHEuTHsKAPHsLAMEDHsMEMsNUNsPEsRESHsSAMEKHtHINtMALL ALEPHsTAWsWAWsYODHsZAYINlNUMBER FOURsONE
v HUNDREDsTENtHREEtWENTYuOcRISTMAS TREEcURCHbINEMA
cRCLE DIVIDED BY HORIZONTAL BAR AND TOP HALF DIVIDED BY VERTICAL BAR
hWITH ALL BUT UPPER LEFT QUADRANT BLACKmHORIZONTAL BARmLEFT HALF BLACKnOWER HALF BLACK
mRIGHT HALF BLACKmSMALL CIRCLE TO THE RIGHTnUPERIMPOSED XmTWO HORIZONTAL STROKES TO THE RIGHT
mUPPER HALF BLACKsRIGHT QUADRANT BLACKmVERTICAL FILLgD ANTICLOCKWISE ARROWv-ROTATED DIVISION SIGN
jSTERISK OPERATORiBOLD XjULLETiC WITH OVERLAID BACKSLASHjCjDjROSS FORMEEu WITH FOUR DOTS!TWO DOTS
oPOMMEEnING LANESiDASHjIGIT EIGHToFIVEpOURoNINEoONEoSEVENpIXoTHREEpWOoZEROkVISION SIGNsLASH
jOLLAR SIGN WITH OVERLAID BACKSLASHkT OPERATORiEQUALSiGREATER-THANiHANGUL CHIEUCHw AqIEUCu ApHIEUH
u ApIEUNGu AvUpKHIEUKHw AqIYEOKv ApMIEUMu ApNIEUNu ApPHIEUPHw AqIEUPu ApRIEULu ApSIOSt ApTHIEUTHw A
qIKEUTv AjEAVY WHITE RIGHTWARDS ARROWjORIZONTAL BAR WITH NOTCHjUMAN FIGUREiIDEOGRAPH ACCEPT
tDVANTAGEtLLIANCEtTTENTIONsCENTREtONGRATULATIONuPYuRRECTsEARTHtIGHTtNTERPRISEtXCELLENTsFEMALE
tINANCIALuREuVEtOURsHAVEtIGHsITEMsKINDERGARTENtOTOsLABORtEFTtOWsMALEtEDICINEuTALtOONsNAMEtIGHTuNE
sONEsPRINTsQUESTIONsRELIGIONuSOURCEvTtIGHTsSCHOOLtECRETuVENtIXtOCIETYtPECIALtTOCKuUDYtUITABLEuN
uPERVISEsTENtHREEtWOsWATERtOODjNFORMATION SOURCEjTALIC LATIN CAPITAL LETTER C:RiKATAKANA ArErHAsEsI
sOsUrIrKAsEsIsOsUrMAsEsIsOsUrNAsEsIsOsUrOrRAsEsIsOsUrSAsEsIsOsUrTAsEsIsOsUrUrWAsEsIsOrYAsOsU
jOREAN CHARACTER CHAMKOzJUEUIiLATIN CAPITAL LETTER A&B&C&D&E&F&G&H&I&J&K&L&M&N&O&P&Q&R&S&T&U&V&W&X
&Y&ZoSMALL LETTER A$B$C$D$E$F$G$H$I$J$K$L$M$N$O$P$Q$R$S$T$U$V$W$X$Y$ZjESS-THANiMINUS
jULTIPLICATION SIGN WITH CIRCUMFLEX ACCENTiNUMBER EIGHTEENuY ON BLACK SQUAREqLEVENpFIFTEENtY
u ON BLACK SQUAREqORTYu EIGHTvFIVEwOURvNINEvON BLACK SQUARExEvSEVENwIXvTHREEwWOrURTEENpNINETEEN
pSEVENTEENvY ON BLACK SQUAREqIXTEENtY ON BLACK SQUAREpTENs ON BLACK SQUAREqHIRTEENuYv EIGHTwFIVE
xOURwNINEwON BLACK SQUAREyEwSEVENxIXwTHREExWOqWELVEsNTYv EIGHTwFIVExOURwNINEwON BLACK SQUAREyE
wSEVENxIXwTHREExWOiOPEN CENTRE EIGHT POINTED STARiPARALLELjERPENDICULARjLUSjOSTAL MARK
iREVERSE SOLIDUSjING OPERATORiSQUAREiTIMESjRIANGLEq DOWNiVERTICAL BARiWHITE BULLEToSTARjZiX
iZERO WITH SLASHeULATION FUNCTIONfMFLEX ACCENTfS TENTcTYSCAPEj AT DUSK
bJK COMPATIBILITY IDEOGRAPH-2F800*1*2*3*4*5*6*7*8*9*A*B*C*D*E*F)10*1*2*3*4*5*6*7*8*9*A*B*C*D*E*F)20
*1*2*3*4*5*6*7*8*9*A*B*C*D*E*F)30*1*2*3*4*5*6*7*8*9*A*B*C*D*E*F)40*1*2*3*4*5*6*7*8*9*A*B*C*D*E*F)50
*1*2*3*4*5*6*7*8*9*A*B*C*D*E*F)60*1*2*3*4*5*6*7*8*9*A*B*C*D*E*F)70*1*2*3*4*5*6*7*8*9*A*B*C*D*E*F)80
*1*2*3*4*5*6*7*8*9*A*B*C*D*E*F)90*1*2*3*4*5*6*7*8*9*A*B*C*D*E*F)A0*1*2*3*4*5*6*7*8*9*A*B*C*D*E*F)B0
*1*2*3*4*5*6*7*8*9*A*B*C*D*E*F)C0*1*2*3*4*5*6*7*8*9*A*B*C*D*E*F)D0*1*2*3*4*5*6*7*8*9*A*B*C*D*E*F)E0
*1*2*3*4*5*6*7*8*9*A*B*C*D*E*F)F0*1*2*3*4*5*6*7*8*9*A*B*C*D*E*F(900*1*2*3*4*5*6*7*8*9*A*B*C*D*E*F
)10*1*2*3*4*5*6*7*8*9*A*B*C*D*E*F)20*1*2*3*4*5*6*7*8*9*A*B*C*D*E*F)30*1*2*3*4*5*6*7*8*9*A*B*C*D*E*F
)40*1*2*3*4*5*6*7*8*9*A*B*C*D*E*F)50*1*2*3*4*5*6*7*8*9*A*B*C*D*E*F)60*1*2*3*4*5*6*7*8*9*A*B*C*D*E*F
)70*1*2*3*4*5*6*7*8*9*A*B*C*D*E*F)80*1*2*3*4*5*6*7*8*9*A*B*C*D*E*F)90*1*2*3*4*5*6*7*8*9*A*B*C*D*E*F
)A0*1*2*3*4*5*6*7*8*9*A*B*C*D*E*F)B0*1*2*3*4*5*6*7*8*9*A*B*C*D*E*F)C0*1*2*3*4*5*6*7*8*9*A*B*C*D*E*F
)D0*1*2*3*4*5*6*7*8*9*A*B*C*D*E*F)E0*1*2*3*4*5*6*7*8*9*A*B*C*D*E*F)F0*1*2*3*4*5*6*7*8*9*A*B*C*D*E*F
(A00*1*2*3*4*5*6*7*8*9*A*B*C*D*E*F)10*1*2*3*4*5*6*7*8*9*A*B*C*D%F900)1)2)3)4)5)6)7)8)9)A)B)C)D)E)F
(10)1)2)3)4)5)6)7)8)9)A)B)C)D)E)F(20)1)2)3)4)5)6)7)8)9)A)B)C)D)E)F(30)1)2)3)4)5)6)7)8)9)A)B)C)D)E)F
(40)1)2)3)4)5)6)7)8)9)A)B)C)D)E)F(50)1)2)3)4)5)6)7)8)9)A)B)C)D)E)F(60)1)2)3)4)5)6)7)8)9)A)B)C)D)E)F
(70)1)2)3)4)5)6)7)8)9)A)B)C)D)E)F(80)1)2)3)4)5)6)7)8)9)A)B)C)D)E)F(90)1)2)3)4)5)6)7)8)9)A)B)C)D)E)F
(A0)1)2)3)4)5)6)7)8)9)A)B)C)D)E)F(B0)1)2)3)4)5)6)7)8)9)A)B)C)D)E)F(C0)1)2)3)4)5)6)7)8)9)A)B)C)D)E)F
(D0)1)2)3)4)5)6)7)8)9)A)B)C)D)E)F(E0)1)2)3)4)5)6)7)8)9)A)B)C)D)E)F(F0)1)2)3)4)5)6)7)8)9)A)B)C)D)E)F
&A00)1)2)3)4)5)6)7)8)9)A)B)C)D)E)F(10)1)2)3)4)5)6)7)8)9)A)B)C)D)E)F(20)1)2)3)4)5)6)7)8)9)A)B)C)D)E
)F(30)1)2)3)4)5)6)7)8)9)A)B)C)D)E)F(40)1)2)3)4)5)6)7)8)9)A)B)C)D)E)F(50)1)2)3)4)5)6)7)8)9)A)B)C)D)E
)F(60)1)2)3)4)5)6)7)8)9)A)B)C)D(70)1)2)3)4)5)6)7)8)9)A)B)C)D)E)F(80)1)2)3)4)5)6)7)8)9)A)B)C)D)E)F
(90)1)2)3)4)5)6)7)8)9)A)B)C)D)E)F(A0)1)2)3)4)5)6)7)8)9)A)B)C)D)E)F(B0)1)2)3)4)5)6)7)8)9)A)B)C)D)E)F
(C0)1)2)3)4)5)6)7)8)9)A)B)C)D)E)F(D0)1)2)3)4)5)6)7)8)9eRADICAL BAMBOOnLUEnOLT OF CLOTHoNEoX
nRUSH ONEsTWOmC-SIMPLIFIED BIRDzCARTzDRAGONzEAT!VENzFISH!LY!ROGzGATE!OLDzHORSEzLEAF!ONGzSALT!EE
!HELL!ILK!PEECHzTANNED LEATHER!OOTH!URTLEzWINDnHOKEnITYoVILIANnLIFFoOTHESnOWmDEATHnIVINATIONnOG
mEAT ONEqTHREErWOnWEnYEmFIREnOOTmGHOSTnRASS ONEsTHREEtWOmHANDnEADpRT ONEsTWOnORN
mJ-SIMPLIFIED DRAGONzEVENzTOOTH!URTLEnADEmKNIFE ONEsTWOmLAME FOURrONErTHREEsWOnONG ONErTWOmMEAToSH
nOONoRTARoTHERoUND ONEsTWOmNET FOURqONEqTHREErWOmOLDmPAW ONEqTWOnERSONmRAINoMoPnEPEATmSEALoCOND ONE
tTHREEuWOnHEEPnILKoMPLIFIED HALF TREE TRUNKyORNxWALKyHEATxYELLOWnMALL ONEsTWOnNAKEoOUT ONEsTWO
nPIRIT ONEtTWOnUNmTABLEnHREADnIGERnURTLEmWALK ONErTWOoTER ONEsTWOnEST ONErTWOeSTROKE BXGlDlHmGmPnWG
mXWGmZnGnTnWoGnZoPoZpGlNlPmDmGmZlQlSmGmPmTmWnGnZmZnWGnZlTmNlWGlXGbLAMSHELL MOBILE PHONEdPPER BOARD
fING HANDS SIGNdSSICAL BUILDINGcEAR SCREEN SYMBOLcINKING BEER MUGSjGLASSESdPBOARD
cOCK FACE EIGHT OCLOCKq-THIRTYmLEVEN OCLOCKr-THIRTYlFIVE OCLOCKp-THIRTYmOUR OCLOCKp-THIRTY
lNINE OCLOCKp-THIRTYlONE OCLOCKo-THIRTYlSEVEN OCLOCKq-THIRTYmIX OCLOCKo-THIRTYlTEN OCLOCKo-THIRTY
mHREE OCLOCKq-THIRTYmWELVE OCLOCKr-THIRTYnO OCLOCKo-THIRTYfWISE CLOSED CIRCLE ARROWlONTOUR INTEGRAL
kDOWNWARDS AND UPWARDS OPEN CIRCLE ARROWSkGAPPED CIRCLE ARROWkINTEGRALkOPEN CIRCLE ARROW
kRIGHT AND LEFT SEMICIRCLE ARROWSpWARDS AND LEFTWARDS OPEN CIRCLE ARROWS
~ ARROWS WITH CIRCLED ONE OVERLAYkTOP SEMICIRCLE ARROWlRIANGLE-HEADED OPEN CIRCLE ARROWdSE UP
fD BOOKhINTERSECTION WITH SERIFShLOCK WITH KEYhMAILBOX WITH LOWERED FLAGuRAISED FLAGhSUBSET
n OR EQUAL TOjPERSETp OR EQUAL TOhUMBRELLAiNION WITH SERIFSy AND SMASH PRODUCTdUDf WITH LIGHTNING
lRAINlSNOWlTORNADOdWN FACEbOATcCKROACHeTAIL GLASSdONUTcFFINcINcLLISION SYMBOLdONf EQUALSgSIGN
cMBINING ACUTE ACCENTw BELOWqTONE MARKp-GRAVE-ACUTEqMACRONlLMOST EQUAL TO ABOVE!BELOWlNNUITY SYMBOL
mTICLOCKWISE ARROW ABOVEyRING OVERLAYlSTERISK ABOVEtBELOWkBINDU BELOWlREVEp BELOWp-MACRON
mIDGE ABOVErBELOWkCANDRABINDUmRONp BELOWlEDILLAlIRCUMFLEX ACCENT$ BELOWlLOCKWISE ARROW ABOVE
uRING OVERLAYlOMMA ABOVEv RIGHTqBELOWmNJOINING MACRON$ BELOWlYRILLIC DASIA PNEUMATA
tHUNDRED MILLIONS SIGN$THOUSANDS SIGNtKAVYKAtLETTER A!BE$IG YUS!CHE!DE$JERV!EF$L$M$N$R$S%-TE!FITA
!GHE!HA%RD SIGN!I$E$OTIFIED A.BIG YUS.E!KA!LITTLE YUS!MONOGRAPH UK!O$MEGA!PE!SHA%CHA$OFT SIGN!TE$SE
!U$KRAINIAN IE!VE!YAT$ERU$I$U!ZE$HEtMILLIONS SIGNtPALATALIZATIONvYEROKuOKRYTIEuSILI PNEUMATA
tTEN MILLIONS SIGNuHOUSAND MILLIONS SIGNuITLOy LEFT HALFzRIGHT HALFtVZMETkDELETION MARK
mVANAGARI DIGIT EIGHT$FIVE%OUR$NINE$ONE$SEVEN%IX$THREE%WO$ZEROvLETTER A%KA%NA%PA%RA%U%VI
vSIGN AVAGRAHAlIAERESISt BELOWt-RINGlOT ABOVEt LEFTuRIGHToBELOWt LEFTnTED ACUTE ACCENTrGRAVE ACCENT
mUBLE ACUTE ACCENTrBREVEw BELOWrCIRCUMFLEX ABOVErGRAVE ACCENTrINVERTED BREVE) BELOWrLOW LINErMACRON
x BELOWrOPEN MARK BELOWsVERLINErPARENTHESES ABOVEsLUS SIGN ABOVE$BELOWrRIGHTWARDS ARROW BELOW
tNG BELOWrTILDEw LEFT HALFxRIGHT HALFrVERTICAL LINE ABOVE)BELOW!STROKE OVERLAYqD CIRCUMFLEX ACCENT
mWN TACK BELOWoWARDS ARROWkENCLOSING CIRCLE! BACKSLASHuDIAMONDuKEYCAPuSCREENvQUARE
uUPWARD POINTING TRIANGLElQUALS SIGN BELOWkFERMATAlOUR DOTS ABOVEkGLAGOLITIC LETTER AZU%BIG YUS&UKY
%CHRIVI%DJERVI&OBRO%FITA&RITU%GLAGOLI%HERU%I&NITIAL IZHE&OTATED BIG YUS:SMALL YUS&ZHE%KAKO%LJUDIJE
%MYSLITE%NASHI%ONU%POKOJI%RITSI%SHA(TA&LOVO&MALL YUS%TSI&VRIDO%UKU%VEDE%YATI&ERI)U(STU&O&U%ZEMLJA
&HIVETElRANTHA DIGIT FIVEzOURyONEySIXyTHREEzWOyZEROsLETTER AzKAzNAzPAzVInPHEME JOINERnVE ACCENT
w BELOWqTONE MARKp-ACUTE-GRAVEqMACRONmEEK DIALYTIKA TONOSqKORONISqMUSICAL PENTASEMEyTETRASEME
zRISEMEqPERISPOMENIqYPOGEGRAMMENIkHOMOTHETIC ABOVEmOK ABOVEmRNkINFINITYmVERTED BREVEy BELOW
vIDGE BELOWtDOUBLE ARCH ABOVE)BELOWlS BELOWkKATAKANA-HIRAGANA SEMI-VOICED SOUND MARK
%VOICED SOUND MARKmVYKA ABOVE LEFTxRIGHTkLATIN LETTER SMALL CAPITAL G;L;M;N;RqSMALL LETTER A
( WITH DIAERESIS(E(LPHA(O(V&B(ETA&C( CEDILLA&D&E(SH(TH&F(LATTENED OPEN A ABOVE&G&H&I(NSULAR D;G;R;T
&K&L( WITH DOUBLE MIDDLE TILDE(ONG S&M&N&O( WITH DIAERESIS:LIGHT CENTRALIZATION STROKE&P&R( BELOW
)ROTUNDA&S(CHWA&T(URNED W BELOW&U( WITH DIAERESIS:LIGHT CENTRALIZATION STROKE&V&W( BELOW&X&Z
lEFT ANGLE ABOVEvBELOWqRROW ABOVEvBELOWuHEAD ABOVEzBELOWpHALF RING ABOVEzBELOWrRPOON ABOVE
pPARENTHESIS ABOVE LEFT$BELOW LEFTpRIGHT ARROW ABOVE$BELOWpTACK BELOWoWARDS ARROW OVERLAY
uHARPOON WITH BARB DOWNWARDSlIGATURE LEFT HALF% BELOWtRIGHT HALF& BELOW
nHT CENTRALIZATION STROKE BELOWlONG DOUBLE SOLIDUS OVERLAYpSOLIDUS OVERLAYqTROKE OVERLAY
pVERTICAL LINE OVERLAYmW LINEkMACRONq BELOWrLEFT HALF! BELOWrRIGHT HALF$ BELOWq-ACUTErBREVErGRAVE
lINUS SIGN BELOWkNOT TILDE ABOVElUMBER SIGN ABOVEkOGONEKq ABOVElLD PERMIC LETTER AN%DOI%NENOE%SII
%ZATAlPEN MARK BELOWlVERLINEkPALATALIZED HOOK BELOWmRENTHESES ABOVEwBELOWwOVERLAYlLUS SIGN ABOVE
uBELOWkRETROFLEX HOOK BELOWmVERSE SOLIDUS OVERLAYrD COMMA ABOVElIGHT ARROW ABOVEwBELOWvHEAD ABOVE
$ND DOWN ARROWHEAD BELOW(UP ARROWHEAD BELOW!BELOWqHALF RING ABOVE!BELOWsRPOON ABOVE
qPARENTHESIS ABOVE RIGHT%BELOW RIGHTqTACK BELOWpWARDS HARPOON WITH BARB DOWNWARDSmNG ABOVEpBELOW
pOVERLAYkSEAGULL BELOWlHORT SOLIDUS OVERLAYrTROKE OVERLAYqVERTICAL LINE OVERLAYlNAKE BELOW
lQUARE BELOWsRACKETS ABOVElTRONG CENTRALIZATION STROKE BELOWlUSPENSION MARKkTHREE DOTS ABOVElILDE
p BELOWqLEFT HALF BELOWqOVERLAYqRIGHT HALF BELOWlRIPLE ACUTE ACCENTrDOTrUNDERDOTlURNED COMMA ABOVE
kUP TACK ABOVEsBELOWmWARDS ARROW BELOWlR ABOVElS ABOVEkVERTICAL LINE ABOVEyBELOWtTILDE
kWIDE BRIDGE ABOVEpINVERTED BRIDGE BELOWmGGLY LINE BELOWkX ABOVEmBELOWl-X BELOWkZIGZAG ABOVErBELOW
dETdMAeERCIAL ATlMINUS SIGNdPASSeLEMENTeOSITION SYMBOLeRESSIONcNFETTI BALLeOUNDED FACEeUSED FACE
dGRUENT WITH DOT ABOVEdICAL TAPERdJUNCTIONdSTRUCTION SIGNnWORKERdTAINS AS MEMBERmNORMAL SUBGROUP
$ OR EQUAL TOjWITH LONG HORIZONTAL STROKEoOVERBARoVERTICAL BAR AT END OF HORIZONTAL STROKE
eINUOUS UNDERLINE SYMBOLeOUR INTEGRALeROL KNOBSiSEQUENCE INTRODUCERdVENIENCE STOREcOKED RICEeIEfNG
cPTIC CAPITAL LETTER AKHMIMIC KHEIxLFAwBOHAIRIC KHEIwCROSSED SHEIyYPTOGRAMMIC EIE:GANGIA:NI:SHEI
wDALDAxEIxIALECT-P ALEF*HORI*KAPA*NIwEIEwFEIxIwGAMMAyNGIAwHATExORIwIAUDAwKAPAxHEIyIxSIwL-SHAPED HA
xAULAwMIwNIwOxLD COPTIC AIN+DJA+ESH+GANGIA+HA.T,EI,ORI+OOU+SHEI.IMA!NUBIAN NGI,YI+SHIMA+WAUxOUwPI
xSIwROwSAMPIxHEIyIMAxIMAxOUwTAUxHETHEwUAwVIDAwZATAiOMBINING NI ABOVErSPIRITUS ASPER!LENIS
hEPACT DIGIT EIGHTtFIVEuOURtNINEtONEtSEVENuIXtTHREEuWOnNUMBER EIGHT HUNDREDzYuFIFTYwVE HUNDREDvORTY
wUR HUNDREDuNINE HUNDREDyTYuONE HUNDREDuSEVEN HUNDREDzTYvIX HUNDREDxTYuTENvHIRTYwREE HUNDREDvWENTY
wO HUNDREDnTHOUSANDS MARKhFRACTION ONE HALFiULL STOPhMORPHOLOGICAL DIVIDER
hOLD NUBIAN DIRECT QUESTION MARKsFULL STOPsINDIRECT QUESTION MARKsVERSE DIVIDER
hSMALL LETTER AKHMIMIC KHEIvLFAuBOHAIRIC KHEIuCROSSED SHEIwYPTOGRAMMIC EIE,GANGIA,NI,SHEIuDALDAvEI
vIALECT-P ALEF(HORI(KAPA(NIuEIEuFEIvIuGAMMAwNGIAuHATEvORIuIAUDAuKAPAvHEIwIvSIuL-SHAPED HAvAULAuMI
uNIuOvLD COPTIC AIN)DJA)ESH)GANGIA)HA+T*EI*ORI)OOU)SHEI+IMAyNUBIAN NGI*YI)SHIMA)WAUvOUuPIvSIuRO
uSAMPIvHEIwIMAvIMAvOUuTAUvHETHEuUAuVIDAuZATAiYMBOL KAIpHI ROoMI ROoPI ROoSHIMA SIMApTAUROSoTAU RO
dYLEFT SYMBOLeRIGHT SIGNcRALdNISH VERSE DIVIDERdRESPONDS TOcUCH AND LAMPdNTERBOREhSINK
fING ROD TENS DIGIT EIGHTyFIVEzOURyNINEyONEySEVENzIXyTHREEzWOnUNIT DIGIT EIGHTyFIVEzOURyNINEyONE
ySEVENzIXyTHREEzWOdPLE WITH HEARTcWd FACEbRcABcEDIT CARDdSCENT MOONcICKETh BAT AND BALLcOCODILE
dISSANTdSS MARKgOF JERUSALEMjLORRAINEgPATTY WITH LEFT CROSSBARrRIGHT CROSSBARhOMMEE
m WITH HALF-CIRCLE BELOWfED FLAGSiNEGATIVE SQUARED LATIN CAPITAL LETTER PiSWORDSfING LANESdWNcUTCH
dZEIRO SIGNcYING CAT FACEhFACEdSTAL BALLbSIbUBE ROOTcCUMBERcNEIFORM NUMERIC SIGN EIGHT ASH&DISH
&GESH2&SHAR2&U( VARIANT FORM&VARIANT FORM USSU~3yLAMITE FIFTY*ORTY)ONE THIRD)TWO THIRDSxFIVE ASH
) TENU%BAN2* VARIANT FORM&URU%DISH%GESH2*U%SHAR2*U&IXTHS DISH%U& VARIANT FORMyOUR ASH) TENU%BAN2
* VARIANT FORM&URU%DISH%GESH2*U%SHAR2*U%U& VARIANT FORM%VARIANT FORM LIMMU~ A~ B~4xNIGIDAESH&MIN
zNE ASH%DISH%GESH2%SHAR2%U& VARIANT FORM%VARIANT FORM ILIMMU~U A~U3~U4xOLD ASSYRIAN ONE QUARTER
>SIXTHyNE BAN2%URU$EIGHTH ASH%SHE3$GESH2)U$HALF GUR$QUARTER ASH.GUR$SHARU$THIRD DISH+VARIANT FORM A
xSEVEN ASH&DISH&GESH2&SHAR2&U( VARIANT FORM&VARIANT FORM IMIN A~ B~3yHAR2 TIMES GAL PLUS DISH_MIN
yIX ASH( TENU$DISH$GESH2$SHAR2$U% VARIANT FORM$VARIANT FORM ASH9xTHREE ASH* TENU&BAN2(URU
+ VARIANT FORM&DISH&GESH2+U&SHAR2, VARIANT FORM+U, VARIANT FORM&VARIANT FORM ESH16|21yWO ASH( TENU
$BAN2%URU$ESHE3$GESH2)U$SHAR2)U$THIRDS DISH,VARIANT FORM AkPUNCTUATION SIGN DIAGONAL COLON
:QUADCOLON:TRICOLON$OLD ASSYRIAN WORD DIVIDER$VERTICAL COLONkSIGN Aq TIMES AxBADxGAN2 TENUxHAxIGI
xLAGAR GUNUxMUSHxSAGq2qBr GUNUsTIMES ASH2yDUN3 GUNUyGAL!N2 TENUyHAyIGI GUNUzMINyLAGAByNUN$ TENU
ySHESH!U2yU PLUS U PLUS Ur2s TIMES AzBALAGzGAN2 TENUzME PLUS ENzSHA3zTAK4qDr TIMES ESH2qK
r TIMES ERIN2ySHITA PLUS GISHqLr TIMES ALyDIM2yGISHyHAyKAD3zIySHEyUSHrANrEPHqMARt TIMES KUG!SHEqN
r OVER ANsPLUS NAGA OPPOSING AN PLUS NAGA%SQUAREDsTHREE TIMESrSHEqPINqRADt TIMES KURrKABqSAL2rH
s KABA TENUtOVER ASH OVER ASH: CROSSING ASH OVER ASH OVER ASH%TUG2 OVER TUG2 TUG2 OVER TUG2 PAP
tZIDA TENUs2sGABpBArDs TIMES DISH TENUrG3rHAR2v TIMES AB2%NI%ZArLs OVER BALsAGrRsA2qIr TIMES AyGAR
yIGI GUNUqUr CROSSING BUsOVER BU AB!TIMES NA2!UNrLUGu OVER BULUGrRs2pDAr TIMES TAK4rG
s KISIM5 TIMES A PLUS MASH+MAR*BALAG+I*GA, PLUS MASH+I,R2+UD*HA*IR, PLUS LU*KAK*LA+U, PLUS MASH2,M
*NE*PAP PLUS PAP*SI*TAK4*U2 PLUS GIR2>MASH+SHtTIMES KURs3rMrRsA3t4qIrBrMs TIMES IGIzSHEzU U Us2
t TIMES UDrNs KASKAL U GUNU DISHrSHt PLUS SHUqUr GUNUsOVER DUsSHESHIGrBs TIMES ESH2zSHEs2rG
s TIMES ANSHE!SH% AT LEFTzDIN!UNzERIN2zGA!I$R2 GUNU$SHzHA!IzIGI GUNUzKASKAL!UR$SHU2) PLUS KASKAL
zLAK-020$M% TIMES KUR!UH PLUS GISHzMASH!ES!IzNIzPIzSHE!I GUNUsUDrHrNs3t GUNUy GUNUs4rR2pE
q OVER E NUN OVER NUNrTIMES PAPq2r TIMES A PLUS HA PLUS DAyGARyKURyMIyPAPySALzHEyUqDINqGIRqLqN
r CROSSING ENsOPPOSING ENsSQUAREDsTIMES GAN2% TENUyMEqRENrIN2u XqSH2t CROSSING ESH2qZEN
t SHESHIG TIMES ASH,HI,IGI GUNU,LA:L,ME:S,SUuTIMES A$ PLUS LAL: TIMES LAL$N!BAD!DUN3 GUNU. GUNU!GUD
!HA% GUNU!IGI GUNU!KASKAL* SQUARED$U3!LA%L TIMES LAL$I$U!SHE$U!U2$DpGAr GUNUr2s OVER GA2
tTIMES A PLUS DA PLUS HA*HA*IGI!B2 TENU PLUS TAB!N$ PLUS KAK PLUS A!SH%2& PLUS GALzBAD$HAR2
$R PLUS RA!UR% PLUS RAzDA!I$M GUNU&TIMES SHE!UB$G TIMES IGI GUNU.KASKALzEL$ PLUS LA!N
$ TIMES GAN2 TENU!RENzGA$N2 TENU$R% PLUS DI,NE!I$4% PLUS A$R2 PLUS SUzHA PLUS A+LU PLUS ESH2$L
% PLUS LA!I PLUS LI!UB2zIGI GUNU!SH PLUS HU PLUS ASHzKAK$SKAL!ID% PLUS LAL!U3 PLUS AN
$SHU2 PLUS KASKALzLA$M% TIMES KUR!UHzME PLUS EN!I!USHzNE$ PLUS E2+GI!UN% OVER NUNzPAzSAL$R!HE
% PLUS TUR$ID%M!UMzTAK4zU!D$ PLUS DUzZIZ2rBAt CROSSING GABAuROTATED NINETY DEGREESrD
s OVER GAD GAR OVER GARrLs GAD OVER GAD GAR OVER GARsAMrMrNs2t CROSSING GAN2uOVER GAN2uTENUrRs3
rSHANqE22rSHTINw TIMES KUR&UqIr CROSSING GIsTIMES EyUr4s CROSSING GI4tOVER GI4rDIMrGrR2t GUNUs3
t TIMES A PLUS IGI!GAN2 TENU!IGI!LU PLUS IGI!PArSALsHt CROSSING GISHuTENUvIMES BAD
!GISH CROSSING GISH!TAK4qUr CROSSING GUr2s GUNUtTIMES IGI GUNUzKAK% TIMES IGI GUNUzNUN
zSAL PLUS TUG2rDs OVER GUD LUGALtPLUS GISH TIMES TAK4tTIMES A PLUS KURzKURrLrMs TIMES SHErRs7sUNtSH
pHAr GUNUsTENUw GUNUrLqIr TIMES ASH$ OVER HI TIMES ASH$2yBADyDISHyGADyKINyNUNySHEyUqUrB2t TIMES AN
!HAL!KASKAL!LISH!UDrL2rSHpIq AqBqDIMt OVER IDIM BUR(SQUAREDqGrIs DIBtGUNU
tOVER IGI SHIR OVER SHIR UD OVER UDtRIqLr TIMES GAN2 TENUr2qMr CROSSING IMsOPPOSING IMsSQUARED
sTIMES TAK4rINqNqRqSHpKAr TIMES AzD! PLUS KU3zNSHEzSH2$3yBAD!LAG!RzIzUyERIN2zSH2yGA!L!N2 TENU!R
$ PLUS SHA3 PLUS AzI!R2!SH% CROSSING GISH&PLUS SARzU!D!R7yHI TIMES ASH2yIGIzMyKA!KzI!DyLIzU!MyME
! PLUS DU*GI*TEzI! PLUS NUNUZyNEzUNyPAzIyRUySA!RzHA!E!ID!U$LzIGzUHURyTARzUyUz U Uz2zDzMUM TIMES PA
zR!2zSHyZIr2s CROSSING KA2rBrD2s3s4s5t OVER KAD5rKs TIMES IGI GUNUrLs CROSSING KALtTIMES BADrM2s4
rP ELAMITErSKALv LAGAB TIMES U OVER LAGAB TIMES UwOVER KASKAL LAGAB TIMES U OVER LAGAB TIMES UqESH2
qIr TIMES BADyUzDrDrNrSALsHsIM5v OVER KISIM5qUr OVER HI TIMES ASH2 KU OVER HI TIMES ASH2r3r4
s VARIANT FORMr7rLs GUNUrNrRs OPPOSING KURrSHU2qWU318pLArGABu SQUAREDvTIMES A% PLUS DA PLUS HA,GAR
,LAL%L%N%SH ZIDA TENU$BAD%I$DAR$EN$GA&R%I%UD( PLUS GUD$HA&L%I TIMES NUN$IGI GUNU%M& PLUS HA.LU$KI&N
%U3&L( PLUS HI PLUS A$LAGAB%ISH%U&L$ME& PLUS EN%USH$NE$SHE PLUS SUM&ITA PLUS GISH PLUS ERIN2^TENU
&U2) PLUS SHU2%UM$TAG&K4%E PLUS A PLUS SU PLUS NA$U% PLUS A,U PLUS U%2 PLUS ASH%D%SH$ZU OVER ZUtR
u GUNUz OVER LAGAR GUNU SHEvTIMES SHE( PLUS SUMrHSHUrK-003u21v5u30u50v1u62u79 OVER LAK-079 GUNUu80
v1 OVER LAK-081u92t130u42t210v9u20v5v8u38u65v6t343v7v8u83v4u90t441v9w TIMES GU&IGI&PAP PLUS LU3
<PAP PLUS LU3&U2 PLUS BAu50v7u70u83u90v2v3v5t550t608u17w TIMES ASH&BAD&DUN3 GUNU GUNU&KU3&LA&TAR(E
&U2(D(RUDAu36u48w TIMES DUB&GA&IGI* GUNU&NI&PAP PLUS PAP PLUS LU3&SHESH PLUS KI&UD(RUDAt724u49rL
s TIMES LALrMs TIMES KUR% PLUS RUqIrLrMMU2rSHqUr TIMES BADr2s CROSSING LU2tGUNU TIMES ASH
tOPPOSING LU2tSHESHIG! TIMES BADuQUAREDtTENUuIMES ALzBADzDISHzESH2& PLUS LAL(TENUzGAN2 TENUzHAL
!I TIMES BADzIMzKAD2%3& PLUS ASH!IzLA PLUS ASH$GABzME PLUS ENzNE!UzPAP% PLUS PAP PLUS LU3zSHU
!I PLUS ASH$K2 PLUS BUzTAK4!UG2r3rGALu OPPOSING LUGALwVER LUGALvSHESHIGrHrLrMs OVER LUM
$ GAR OVER GARpMAr GUNUsTIMES TAK4r2rHrRrSHt2qErSsHqIr PLUS ZA7rNqUr OVER MUrGs GUNUrNSUBrRGU2rSH
t CROSSING MUSHuOVER MUSH& TIMES A PLUS NA:GA:KAKuTIMES A!KUR!ZAt3u GUNUvTIMES A% PLUS DI$DI$ZApNA
r2r4rGAt INVERTEDuOPPOSING NAGAuTIMES SHU TENUtRrMs NUTILLUs2qEr SHESHIGsTIMES AyUDqIr TIMES Er2rM
s TIMES GAN2 TENU$R PLUS GAN2 TENUrNs9sDA2v TIMES AN&SH) PLUS ASH%BAL%DIM GUNU%GI(SH&UD(L%HI%KESH2
%LAK-050%MASH&E PLUS GAN2 TENU%NE&UN%PAP PLUS PAP%SHE) PLUS A AN<SH> PLUS ASH%U& PLUS U&2 PLUS ASH
&RUDA&SHrSAGqUr11t OVER NU11 BUR OVER BURuROTATED NINETY DEGREESuTENUrNs CROSSING NUN
) LAGAR OVER LAGARtLAGAR TIMES GAR)MASH)SAL, OVER NUN LAGAR TIMES SAL)USHtOVER NUNtTENUsUZ
u AB2 TIMES ASHGAB)BI)DUG)GUD)IGI GUNU)KAD3)LA)NE)SILA3)U2vKISIM5 TIMES BI: UpPArDrNrPqESH2
u ASTERISKqIr CROSSING PIsTIMES AzByBIzUyEyIzByUz2rR2sIGu OPPOSING PIRIGvTIMES KAL$UD$ZApRArBqIqU
pSArGs GUNUx TIMES HAtNUTILLUtOVER SAGtTIMES AzDU$BzENzHAzIGI GUNUzKAK!URzLUMzMIzNUNzSAL!HE AT LEFT
$IDzTAB$K4zU2!B!M!R!SHrLs LAGAB TIMES ASH2rNGA2rRqHAs3t TIMES A!BAD!GISH!NE!SHU2!TUR!U$ PLUS As6
t TENUsB6sR2rEs HUtOVER SHE$ GAD OVER GAD GAR OVER GAR%TAB OVER TAB GAR OVER GARtPLUS HUB2yNAM2ySAR
sG9sNsSHu2uLAMrIDt TIMES A!IMsMt TIMES A!BAL$ULUG!DIN!GAR!IGI& GUNU!KUSHU2!LUL!MUG!SALsNIGsR
t OVER SHIR BUR OVER BURuTENUsTArUs OVER INVERTED SHUs2t PLUS DUG TIMES NIzE2 TIMES ANsBURqIr GUNU
sTIMES TAK4rGs4t OVER SIG4 SHU2rK2rLA3qUr OVER SUrDs2rHURrMsASHrRs9pTAr ASTERISKsGUNUsTIMES HIyMIrB
s OVER TAB NI OVER NI DISH OVER DISHtSQUAREDrGs TIMES BIzGUDzSHE$UzTUG2zUDrK4t PLUS SAGrRqEr GUNUqI
r TENUr2rLrRs OVER TIR$ GAD OVER GAD GAR OVER GARtTIMES TAK4qUrG2rKrMs TIMES GAN2 TENUzTHREE DISHrR
s OVER TUR ZA OVER ZApUq GUDrOVER U PA OVER PA GAR OVER GARySUR OVER SURyU REVERSED OVER U REVERSED
rUs Uq2qBqDr GUNUsKUSHU2sSHESHIGz TIMES BADsTIMES BADyMIyU PLUS U PLUS U= GUNUrUGqMr TIMES LAGAByME
! PLUS DAySHA3yUrBINrUMt TIMES KASKAL!PAqNr GUNUqRr CROSSING URsSHESHIGr2s INVERTEDtTIMES A PLUS HA
*NA!LzHAzNUNzU2$ PLUS ASH+BI!Dr4rIs3rUs TIMES A!SHGABzBARzDARA3!UNzGA$L$N2 TENU$R!UzHAzIGI!M!SHzKI
zLAK-668!U3$MzMINzPAzSHE!IG4zTUzU PLUS GUD!D!RUDAsDAu TIMES UqSHs TIMES AzKU$RzTAK4s2sUMXsXqTUKIqZ3
s TIMES KASKALrUpZAr SQUARED TIMES KURsTENUr7rGrMXqE2qIr OVER ZIr3rBs KABA TENUrGrZ2qU
r OVER ZU PLUS SARr5s TIMES AzTHREE DISH TENUrBURrMcP ON BLACK SQUAREeWITH STRAWdCAKEdIDO
cRLING STONEeY BRACKET EXTENSIONgLOGICAL ANDoORiOPdRENCY EXCHANGEjSIGNeY AND RICE
dVED STEM PARAGRAPH SIGN ORNAMENTcSTARDeOMScT OF MEATbYCLONEcLINDRICITYcPRIOT SYLLABLE ArErIrJAsO
rKAsEsIsOsUrLAsEsIsOsUrMAsEsIsOsUrNAsEsIsOsUrOrPAsEsIsOsUrRAsEsIsOsUrSAsEsIsOsUrTAsEsIsOsUrUrWAsEsI
sOrXAsErZAsOeO-MINOAN SIGN CM001w2w4w5w6w7w8w9v10w1w2xBw3w5w7w9v21w3w4w5w6w7w8w9v30w3w4w5w6w7w8w9
v40w1w4w6w7w9v50w1w2w3w4w5w6w8w9v60w1w2w3w4w6w7w8w9v70w1w2w3w4w5xBw6w8w9v80w1w2w3w4w5w6w7w8w9v90w1
w2w4w5w6w7w8w9u100w1w2w3w4w5w7w8w9v10w2w4u301w2cRILLIC CAPITAL LETTER Az WITH BREVE)DIAERESIS
zBKHASIAN CHE; WITH DESCENDER,DZE,HAzLEUT KAyBARRED O* WITH DIAERESIS!SHKIR KAzEzIG YUS!NOCULAR O
zLENDED YUSzROAD OMEGAzYELORUSSIAN-UKRAINIAN IyCCHEzHE$ WITH DESCENDER,IAERESIS+VERTICAL STROKE
zLOSED LITTLE YUSzROSSED OyDCHEzEzJE$RVzOUBLE MONOCULAR O)OzWEzZE$LO!HE!WE!ZE$HEyEz WITH DIAERESIS
zFzL! WITH DESCENDER*HOOK*MIDDLE HOOK*TAILzM! WITH TAILzN! WITH DESCENDER*HOOK*LEFT HOOK
*MIDDLE HOOK*TAILzR! WITH TICKzS! WITH DESCENDERyFITAyGHE$ WITH DESCENDER+MIDDLE HOOK+STROKE
= AND HOOK+UPTURNzJEyHA! WITH DESCENDER*HOOK*STROKE!RD SIGNzWEyIz WITH DIAERESIS)GRAVE)MACRONzE
! WITH BREVE*GRAVEzO!TA$IFIED A+BIG YUS+CLOSED LITTLE YUS+E+LITTLE YUS+YATzZHITSA
) WITH DOUBLE GRAVE ACCENTyJEyKA! WITH DESCENDER*HOOK*STROKE*VERTICAL STROKEzHAKASSIAN CHEzJE
zOMI DE(JE(ZJE&LJE&NJE&SJE&TJE&ZJE!PPAzSIyLHAzITTLE YUSzJEyMONOCULAR O%GRAPH UKyNEUTRAL YERzJEyO
z WITH DIAERESISzMEGA& WITH TITLOzTyPE! WITH DESCENDER*MIDDLE HOOKzSIyQAyREVERSED DZE+TSE+YU+ZEzHA
zOUND OMEGAySCHWA& WITH DIAERESISzEMISOFT SIGNzHA!CHA!HA% WITH DESCENDER!ORT I) WITH TAIL(U!WE
zOFT DE&EL(M&SIGNzTRAIGHT U, WITH STROKEyTCHEzE! WITH DESCENDER*MIDDLE HOOKzSE!HE!SE!WEzWEyU
z WITH DIAERESIS*OUBLE ACUTE)MACRONzK!RAINIAN IEyVEyWEyYA!E!TzERU% WITH BACK YER,DIAERESISzIzNzUyZE
! WITH DESCENDER+IAERESIS!MLYAzHE$ WITH BREVE+DESCENDER,IAERESIS!WEsIGATURE A IE!EN GHE!TE TSE
jKAVYKAjLETTER MULTIOCULAR OqPALOCHKAqSMALL CAPITAL ELjPAYEROKjSMALL LETTER Ax WITH BREVE&DIAERESIS
xBKHASIAN CHE. WITH DESCENDER*DZE*HAxLEUT KAwBARRED O( WITH DIAERESISySHKIR KAxExIG YUSyNOCULAR O
xLENDED YUSxROAD OMEGAxYELORUSSIAN-UKRAINIAN IwCCHExHEz WITH DESCENDER*IAERESIS)VERTICAL STROKE
xLOSED LITTLE YUSxROSSED OwDCHExExJEzRVxOUBLE MONOCULAR O&OxWExZEzLOyHEyWEyZEzHEwEx WITH DIAERESIS
xFxLy WITH DESCENDER(HOOK(MIDDLE HOOK(TAILxMy WITH TAILxNy WITH DESCENDER(HOOK(LEFT HOOK
(MIDDLE HOOK(TAILxRy WITH TICKxSy WITH DESCENDERwFITAwGHEz WITH DESCENDER)MIDDLE HOOK)STROKE
; AND HOOK)UPTURNxJEwHAy WITH DESCENDER(HOOK(STROKEyRD SIGNxWEwIx WITH DIAERESIS&GRAVE&MACRONxE
y WITH BREVE(GRAVExOyTAzIFIED A)BIG YUS)CLOSED LITTLE YUS)E)LITTLE YUS)YATxZHITSA
& WITH DOUBLE GRAVE ACCENTwJEwKAy WITH DESCENDER(HOOK(STROKE(VERTICAL STROKExHAKASSIAN CHExJE
xOMI DE%JE%ZJE$LJE$NJE$SJE$TJE$ZJEyPPAxSIwLHAxITTLE YUSxJExONG-LEGGED DEwMONOCULAR O!GRAPH UK
wNARROW OxEUTRAL YERxJEwOx WITH DIAERESISxMEGA$ WITH TITLOxTwPALOCHKAxEy WITH DESCENDER(MIDDLE HOOK
xSIwQAwREVERSED DZE)TSE)YU)ZExHAxOUND OMEGA$ED VEwSCHWA$ WITH DIAERESISxEMISOFT SIGNxHAyCHAyHA
! WITH DESCENDERyORT I& WITH TAIL%UyWExOFT DE$EL%M$SIGNxTRAIGHT U* WITH STROKEwTALL HARD SIGN$TE
$YATxCHExEy WITH DESCENDER(MIDDLE HOOKxHREE-LEGGED TExSEyHEySEyWExWEwUx WITH DIAERESIS(OUBLE ACUTE
&MACRONxKyRAINIAN IExNBLENDED UKwVEwWExIDE ESwYAyEyTxERU! WITH BACK YER*DIAERESISxIxNxUwZE
y WITH DESCENDER)IAERESISyMLYAxHEz WITH BREVE)DESCENDER*IAERESISyWEqIGATURE A IEyEN GHEyTE TSE
jTHOUSANDS SIGNaDAGGERg KNIFEhWITH LEFT GUARDmRIGHT GUARDcLET SYMBOLcNCERdGOcRK SHADEgUNGLASSES
cSH SYMBOLfWITH LEFT UPTURNeED LOW LINEhOVERLINEhTRIANGLE-HEADED RIGHTWARDS ARROWcTA LINK ESCAPEbC1
c2c3c4cSbEAF PERSONcCIDUOUS TREEeMAL EXPONENT SYMBOLiSEPARATOR KEY SYMBOLdREASE FONT SIZE SYMBOLcER
cGREE CELSIUShFAHRENHEIThSIGNcLdETEdIVERY TRUCKdTA EQUAL TO
cNTISTRY SYMBOL LIGHT DOWN AND HORIZONTAL@ WITH CIRCLE~H TRIANGLE~H WAVExUP AND HORIZONTAL
> WITH CIRCLE~TRIANGLE~WAVExVERTICAL AND BOTTOM LEFT^RIGHT:TOP LEFT>RIGHT:WAVE*WITH CIRCLE;TRIANGLE
cPARTMENT STOREcRELICT HOUSE BUILDINGcSCENDING NODEdERET CAPITAL LETTER AYxBEExCHEExDEExEFyLyMyNzG
yRySzHyTHyWxGAYxHxJEExKAYxLONG A&H%E%I%O&OxOIyWxPEExSHORT A(H&E&I&O(OxTEEyHEExVEExWUxYEExZEEyHEE
iSMALL LETTER AYvBEEvCHEEvDEEvEFwLwMwNxGwRwSxHwTHwWvGAYvHvJEEvKAYvLONG A$H!E!I!O$OvOIwWvPEEvSHORT A
%H$E$I$O%OvTEEwHEEvVEEvWUvYEEvZEEwHEEfTg ISLANDdKTOP COMPUTERiWINDOWcVANAGARI ABBREVIATION SIGN
mCUTE ACCENTlCARETlDANDAmIGIT EIGHTrFIVEsOURrNINErONErSEVENsIXrTHREEsWOrZEROmOUBLE DANDAlGAP FILLER
mRAVE ACCENTlHEADSTROKElJAIN OMlLETTER AtAtItUtWtYsBAtBAtHAsCAuNDRA AzEzOtHAsDAtDAuDAvHAuHAtHAsEsFA
sGAtGAtHAuHAtLOTTAL STOPsHAtEAVY YAsItIsJAtHAtJAsKAtHAuHAsLAtLAuLAsMAuRWARI DDAsNAtGAtNAuNAtYAsOtE
tOEsPAtHAsQAsRAtHAtRAsSAtHAuORT AyEyOtSAsTAtHAtTAuHAsUtEtUuEsVAtOCALIC L$L!R$RsYAtYAsZAtHAlOM
lSIGN ANUSVARArVAGRAHAqCANDRABINDU$ AVAGRAHA%THREE&WO%VIRAMAqDOUBLE CANDRABINDU VIRAMA
qHIGH SPACING DOTqINVERTED CANDRABINDUqNUKTAqPUSHPIKAqSIDDHAMrPACING CANDRABINDUqVIRAMAsSARGA
mTRESS SIGN ANUDATTAxUDATTAlVOWEL SIGN AAxIxUxWxYwCANDRA E&LONG E&OwEwIxIwOxExOEwPRISHTHAMATRA E
wSHORT E%OwUxExUyEwVOCALIC L)L(R)RdICE CONTROL FOURpONEpSTRINGpTHREEqWObIAERESISdMETER SIGN
eOND OPERATORiSHAPE WITH A DOT INSIDEiTARGETiWITH BOTTOM HALF BLACKnLEFT HALF BLACK
nRIGHT HALF BLACKnTOP HALF BLACKcE FACE-1j2j3j4j5j6dSEL LOCOMOTIVEcFFERENCE BETWEENcGIT EIGHT
l COMMAmFULL STOPgFIVEk COMMAlFULL STOPhOURk COMMAlFULL STOPgNINEk COMMAlFULL STOPgONEj COMMA
kFULL STOPgSEVENl COMMAmFULL STOPhIXj COMMAkFULL STOPgTHREEl COMMAmFULL STOPhWOj COMMAkFULL STOP
gZEROk COMMAlFULL STOPdRAM FOR EARTHqLY HEAVENuUMANlGREATER YANGuINlHEAVENLY EARTHmUMAN EARTH
lLESSER YANGtINcMENSION ORIGINcNGBAT CIRCLED SANS-SERIF DIGIT EIGHT+FIVE,OUR+NINE+ONE+SEVEN,IX
+THREE,WO+ZERO$NUMBER TENiNEGATIVE CIRCLED DIGIT EIGHT)FIVE*OUR)NINE)ONE)SEVEN*IX)THREE*WO
zNUMBER TENzSANS-SERIF DIGIT EIGHT@FIVE^OUR@NINE@ONE@SEVEN^IX@THREE^WO@ZERO:NUMBER TEN
cRECT CURRENT SYMBOL FORM TWOhHITcSABLED CARePPOINTED BUT RELIEVED FACEnFACE
dCONTINUOUS UNDERLINE SYMBOLdGUISED FACEcTTO MARKcVES AKURU DIGIT EIGHTsFIVEtOURsNINEsONEsSEVENtIX
sTHREEtWOsZEROnOUBLE DANDAmEND OF TEXT MARKmGAP FILLERmINITIAL RAmLETTER AuAtBAuHAtCAuHAtDAuDAvHA
uHAtEtGAuHAtHAtIuItJAtKAuHAtLAuLAtMAtNAuGAuNAuYAtOtPAuHAtRAtSAuHAuSAtTAuHAuTAtUuUtVAtYAuYAtZA
mMEDIAL RAtYAmPREFIXED NASAL SIGNmSIGN ANUSVARArCANDRABINDUrHALANTArNUKTAmVIRAMAnOWEL SIGN AAyIxExI
yIxOxUyUdIDESeNG MASKeSION SIGNkLASHjTIMESdORCE SYMBOLcYA LAMPcZZY FACEgSYMBOLbLEbNA DOUBLE HELIX
bO NOT LITTER SYMBOLcCUMENTi WITH PICTUREoTEXTs AND PICTUREcDOcES NOT CONTAIN AS MEMBER
uNORMAL SUBGROUP. OR EQUALjDIVIDEp WITH REVERSED NEGATION SLASHjFORCEjPRECEDEq OR EQUALlOVEjSUCCEED
q OR EQUALcGd FACEdRA ABBREVIATION SIGNgLETTER AoAoIoUnBAoHAnCAoHAnDAoDApHAoHAnEnGAoHAnHAnIoInJAoHA
nKAoHAnLAnMAnNAoGAoNAoYAnOnPAoHAnRAoRAnSAoHAoSAnTAoHAoTApHAnUoUnVAnYAgSIGN ANUSVARAlNUKTAlVIRAMA
nSARGAgVOWEL SIGN AAsIsUrErIsIrOrUsUrVOCALIC R!RcLLAR SIGNdPHINcMINO TILE HORIZONTAL BACKw-00-00$1
$2$3$4$5$6y1-00$1$2$3$4$5$6y2-00$1$2$3$4$5$6y3-00$1$2$3$4$5$6y4-00$1$2$3$4$5$6y5-00$1$2$3$4$5$6
y6-00$1$2$3$4$5$6mVERTICAL BACKu-00-00z1z2z3z4z5z6w1-00z1z2z3z4z5z6w2-00z1z2z3z4z5z6w3-00z1z2z3z4z5
z6w4-00z1z2z3z4z5z6w5-00z1z2z3z4z5z6w6-00z1z2z3z4z5z6cNG SIGNcORcT ABOVEeMINUSeOPERATORePLUS
dTED CIRCLEiROSShFENCEhLINE FACEhOBELOShRIGHT-POINTING ANGLEhSOLIDUSiQUAREhTRANSPOSITION MARKER
cUBLE ACUTE ACCENThCIRCLED DIGIT EIGHTvFIVEwOURvNINEvONEvSEVENwIXvTHREEwWOpNUMBER TENiOLON EQUAL
iURLY LOOPhDAGGERiOWN TACKhEXCLAMATION MARKhHIGH-REVERSED-9 QUOTATION MARKiYPHENhINTEGRALlRSECTION
hLEFT ARC GREATER-THAN BRACKETiOGICAL ANDpORjW LINEk-9 QUOTATION MARKlREVERSED-9 QUOTATION MARK
hNESTED GREATER-THANoLESS-THANx WITH UNDERBARhOBLIQUE HYPHENhPLUSiRECEDESjIMEm QUOTATION MARK
hQUESTION MARKhRIGHT ARC LESS-THAN BRACKEThSOLIDUS OPERATORiQUARE INTERSECTIONoUNIONiTACKED COMMA
jROKE NOT SIGNiUBSETjCCEEDSjPERSETjSPENSION MARKhUNIONiP TACKhVERTICAL BARt DOUBLE LEFT TURNSTILE
$RIGHT TURNSTILEuLEFT TURNSTILEqLINEhWAVY OVERLINEg-ENDED MULTIMAPhLINE EQUAL TO OR GREATER-THAN
yLESS-THANmSLANTED EQUAL TO OR GREATER-THAN*LESS-THANuGREATER-THAN OR EQUAL TO
uLESS-THAN OR EQUAL TOhSTRUCK CAPITAL CwGAMMAwHwNwPxIwQwRwZoITALIC CAPITAL DvSMALL D$E$I$J
oN-ARY SUMMATIONoSMALL GAMMAuPIgD FEMALE SIGNiMALE SIGNiSYMBOLdGHNUTcVE OF PEACEcWN ARROWHEAD
fFISH TAILfRIGHT DIAGONAL ELLIPSISfTACKj WITH CIRCLE BELOWe-POINTING RED TRIANGLE
oSMALL RED TRIANGLEoTRIANGLE WITH LEFT HALF BLACK%RIGHT HALF BLACKeWARD FACING HOOKu WITH DOT
qNOTCHED HOOK% WITH DOTiS ANCORAlRROWp AND RIGHT ONE EIGHTH BLOCKqFROM BAR
qLEFTWARDS OF UPWARDS ARROWqTO BARqWITH CORNER LEFTWARDSvDOUBLE STROKEvEQUILATERAL ARROWHEAD
vHORIZONTAL STROKEvLARGE TRIANGLE ARROWHEADvMEDIUM TRIANGLE ARROWHEADvNOTCHED TAIL
vSMALL EQUILATERAL ARROWHEAD$TRIANGLE ARROWHEADvTIP LEFTWARDSzRIGHTWARDSkBLACK ARROW
qCIRCLED WHITE ARROWkCOMPRESSED ARROWkDASHED ARROWlOUBLE ARROWkFINGER-POST ARROW
kHARPOON WITH BARB LEFT BESIDE DOWNWARDS HARPOON WITH BARB RIGHT>UPWARDS HARPOON WITH BARB RIGHT
+FROM BAR+TO BAR*WARDS%RIGHT FROM BAR,TO BAR+WARDSlEAVY ARROWqCOMPRESSED ARROWkPAIRED ARROWS
kQUADRUPLE ARROWkROCKETkSANS-SERIF ARROWlQUARED ARROWkTRIANGLE ARROWHEADs-HEADED ARROW
) LEFTWARDS OF UPWARDS TRIANGLE-HEADED ARROW*TO BAR*WITH BOLD SHAFT;DOUBLE HORIZONTAL STROKE
;HEAVY SHAFT;LONG TIP LEFTWARDS~RIGHTWARDS;MEDIUM SHAFT;NARROW SHAFT;VERY HEAVY SHAFT!DASHED ARROW
!PAIRED ARROWS!ZIGZAG ARROWnPLE ARROWlWO HEADED ARROWn-HEADED ARROW WITH TRIANGLE ARROWHEADS
kWHITE ARROWv WITHIN TRIANGLE ARROWHEADkZIGZAG ARROWbRACHMA SIGNdFTING POINT RIGHTWARDS ARROWdGON
g FACEcESScIVE SLOW SIGNcOMEDARY CAMELdOLING FACEdP OF BLOODeLETcUM WITH DRUMSTICKSbUCKcMPLING
cPLOYAN AFFIX ATTACHED E HOOKyI HOOKyLEFT-TO-RIGHT SECANTySECANTyTAIL!NGENT) HOOKpHIGH ACUTEuCIRCLE
uDOTuGRAVEuLINEvONG GRAVEuTIGHT ACUTEuVERTICAL% SECANTuWAVEpLEFT HORIZONTAL SECANTqOW ACUTEuRROW
tCIRCLEtDOTtGRAVEtLINEuONG GRAVEtTIGHT ACUTEtVERTICAL$ SECANTtWAVEpMID HORIZONTAL SECANT
tVERTICAL SECANTpRIGHT HORIZONTAL SECANTjDOUBLE MARKjLETTER ArOUqBqDr SrHqErErUqFr NqGr R SqHrLqIrE
qJr Mt SsNt SsSt WITH DOTsWITH DOT!S INSIDE AND ABOVEqKr MsR SrKqLrHrONG IvUqMr Nt SsSsWITH DOTqN
r Mt SsSsWITH DOTrASAL AwIwOwUqOrArOHrUrWqPr NrERNIN AMyNqRr SrHrOMANIAN IzUqSr Jt SsKt RsMsNsPt R
sSsTt RsWITH DOT! BELOWrHORT IrLOAN ANwDHwEExHxNwJwONxWwUqTr R SsSrHqUr NrHrIqVrOCALIC MqWr RrArEI
rHrIrOsWqXrWqYEjPUNCTUATION CHINOOK FULL STOPjSIGN O WITH CROSSjTHICK LETTER SELECTORbVD
aE-MAIL SYMBOLbAGLEcRd OF MAIZEhRICEeWITH HEARING AIDdTHf GLOBE AMERICASnSIA-AUSTRALIA
mEUROPE-AFRICAhROUNDcST SYRIAC CROSSbDITORIAL CORONISbGGcYPTIAN HIEROGLYPH A001x2x3x4x5yAx6yAyBx7x8
x9w10x1x2x3x4yAx5x6x7yAx8x9w20x1x2x3x4x5x6x7x8x9w30x1x2yAx3x4x5x6x7x8x9w40yAx1x2yAx3yAx4x5yAx6x7x8
x9w50x1x2x3x4x5x6x7x8x9w60x1x2x3x4x5x6x7x8x9w70vA001y2y3y4y5y6y7zAzBy8y9x10y1y2y3y4y5y6y7y8y9x20y1
y2y3y4y5y6y7y8y9x30y1y2uB001x2x3x4x5yAx6x7x8x9vEGIN SEGMENTuC001x2yAyByCx3x4x5x6x7x8x9w10yAx1x2x3x4
x5x6x7x8x9w20x1x2x3x4uD001x2x3x4x5x6x7x8yAx9w10x1x2x3x4x5x6x7x8x9w20x1x2x3x4x5x6x7yAx8x9w30x1yAx2x3
x4yAx5x6x7x8x9w40x1x2x3x4x5x6yAx7x8yAx9w50yAyByCyDyEyFyGyHyIx1x2yAx3x4yAx5x6x7x8x9w60x1x2x3x4x5x6x7
yAyByCyDyEyFyGyHuE001x2x3x4x5x6x7x8yAx9yAw10x1x2x3x4x5x6yAx7yAx8x9w20yAx1x2x3x4x5x6x7x8yAx9w30x1x2
x3x4yAx6x7x8vND SEGMENTuF001yAx2x3x4x5x6x7x8x9w10x1x2x3yAx4x5x6x7x8x9w20x1yAx2x3x4x5x6x7x8x9w30x1yA
x2x3x4x5x6x7yAx8yAx9w40x1x2x3x4x5yAx6yAx7yAx8x9w50x1yAyByCx2x3uG001x2x3x4x5x6yAx7yAyBx8x9w10x1yAx2
x3x4x5x6x7x8x9w20yAx1x2x3x4x5x6yAx7x8x9w30x1x2x3x4x5x6yAx7yAx8x9w40x1x2x3yAx4x5yAx6x7x8x9w50x1x2x3
x4uH001x2x3x4x5x6yAx7x8vORIZONTAL JOINERuI001x2x3x4x5yAx6x7x8x9yAw10yAx1yAx2x3x4x5
vNSERT AT BOTTOM END;START(TOP END,STARTuK001x2x3x4x5x6x7x8uL001x2yAx3x4x5x6yAx7x8uM001yAyBx2x3yAx4
x5x6x7x8x9w10yAx1x2yAyByCyDyEyFyGyHx3x4x5yAx6yAx7yAx8x9w20x1x2yAx3x4yAx5x6x7x8yAx9w30x1yAx2x3yAyBx4
x5x6x7x8x9w40yAx1x2x3x4uN001x2x3x4x5x6x7x8x9w10x1x2x3x4x5x6x7x8yAyBx9w20x1x2x3x4x5yAx6x7x8x9w30x1x2
x3yAx4yAx5yAx6x7yAx8x9w40x1x2vL001y2y3y4y5zAy6y7y8y9x10y1y2y3y4y5y6y7zAy8y9x20vU001y2y3y4y5y6y7y8y9
x10zAy1zAy2y3y4y5y6y7y8zAy9x20y1y2zAuO001yAx2x3x4x5yAx6yAyByCyDyEyFx7x8x9w10yAyByCx1x2x3x4x5x6x7x8
x9yAw20yAx1x2x3x4yAx5yAx6x7x8x9yAw30yAx1x2x3yAx4x5x6yAyByCyDx7x8x9w40x1x2x3x4x5x6x7x8x9w50yAyBx1
vVERLAY MIDDLEuP001yAx2x3yAx4x5x6x7x8x9w10x1uQ001x2x3x4x5x6x7uR001x2yAx3yAyBx4x5x6x7x8x9w10yAx1x2x3
x4x5x6yAx7x8x9w20x1x2x3x4x5x6x7x8x9uS001x2yAx3x4x5x6yAx7x8x9w10x1x2x3x4yAyBx5x6x7yAx8x9w20x1x2x3x4
x5x6yAyBx7x8x9w30x1x2x3x4x5yAx6x7x8x9w40x1x2x3x4x5x6uT001x2x3yAx4x5x6x7yAx8yAx9yAw10x1yAx2x3x4x5x6
yAx7x8x9w20x1x2x3x4x5x6x7x8x9w30x1x2yAx3yAx4x5x6uU001x2x3x4x5x6yAyBx7x8x9w10x1x2x3x4x5x6x7x8x9w20x1
x2x3yAx4x5x6x7x8x9yAw30x1x2yAx3x4x5x6x7x8x9w40x1x2uV001yAyByCyDyEyFyGyHyIx2yAx3x4x5x6x7yAyBx8x9w10
x1yAyByCx2yAyBx3x4x5x6x7x8x9w20yAyByCyDyEyFyGyHyIyJyKyLx1x2x3yAx4x5x6x7x8yAx9yAw30yAx1yAx2x3yAx4x5
x6x7yAx8x9w40yAvERTICAL JOINERuW001x2x3yAx4x5x6x7x8x9yAw10yAx1x2x3x4yAx5x6x7yAx8yAx9w20x1x2x3x4yAx5
uX001x2x3x4yAyBx5x6yAx7x8yAuY001yAx2x3x4x5x6x7x8uZ001x2yAyByCyDx3yAyBx4yAx5yAx6x7x8x9w10x1x2x3x4x5
yAyByCyDyEyFyGyHyIx6yAyByCyDyEyFyGyHbIGHT PETALLED OUTLINED BLACK FLORETTEhOINTED BLACK STAR
oPINWHEEL STARoRECTILINEAR BLACK STARgSPOKED ASTERISKgTEARDROP-SPOKED PROPELLER ASTERISKfH NOTE
bJECT SYMBOLbLBASAN LETTER ApBEpCEqHEpDEqHEpEqIpFEpGEqHAMMArEqJEpHEpIpJEpKEqHEpLEqLEpMEpNAqDEqEqJE
pOpPEpQEpREqREpSEqHEpTEqHEpUpVEpXEpYpZEqHEcECTRIC ARROWjLIGHT BULBjPLUGjTORCHiAL INTERSECTION
dMENT OFk OPENING DOWNWARDStUPWARDSlWITH DOT ABOVEqLONG HORIZONTAL STROKEqOVERBAR
qTWO HORIZONTAL STROKESqUNDERBARqVERTICAL BAR AT END OF HORIZONTAL STROKEdPHANTdVATORcF
cYMAIC LETTER ALEPHqYINpBETHpDALETHpGIMELpHErTHpKAPHpLAMEDHpMEMpNUNpPEpQOPHpRESHpSADHErMEKHqHINpTAW
qETHpWAWpYODHpZAYINjIGATURE ZAYIN-YODHbM DASHdQUADdSPACEcOJI COMPONENT BALDqCURLY HAIRqRED HAIR
qWHITE HAIRgMODIFIER FITZPATRICK TYPE-1-2*3*4*5*6cPHASIS SYMBOLdTY DOCUMENTgNESThOTEk PADnGEgPAGEkS
gSETj WITH LEFT ARROW ABOVEpOVERBARpRIGHT ARROW ABOVEpSMALL CIRCLE ABOVEbN DASHdQUADdSPACE
cD OF GUARDED AREAhLINEhMEDIUMhPROOFkTECTED AREAhSELECTED AREAhTEXTiRANSMISSIONt BLOCK
eWITH LEFTWARDS ARROW ABOVEcQdUIRYcTER SYMBOLcVELOPEi WITH DOWNWARDS ARROW ABOVEoLIGHTNINGbOLcMcT
bPAbQUAL AND PARALLEL TOgTO BY DEFINITIONjOR GREATER-THANmLESS-THANmPRECEDESmSUCCEEDSfS COLONhSIGN
l ABOVE LEFTWARDS ARROWsPLUS SIGNsRIGHTWARDS ARROWsTILDE OPERATORnND SLANTED PARALLEL
* WITH TILDE ABOVEmWITH BUMPY ABOVErDOT BELOWrINFINITY BELOWrTWO DOTS ABOVE AND TWO DOTS BELOW
hWITH ASTERISKdIANGULAR TOeVALENT TOlWITH FOUR DOTS ABOVEbRASE TO THE LEFTnRIGHTcIS FORM ONEkTWO
cROR-BARRED BLACK CIRCLEtDIAMONDtSQUAREnWHITE CIRCLEtDIAMONDtSQUAREbSAcCdAPEcTIMATED SYMBOLiSbTB
cHIOPIC COLONlMBINING GEMINATION AND VOWEL LENGTH MARK(MARKtVOWEL LENGTH MARKmMAjDIGIT EIGHTpFIVE
qOURpNINEpONEpSEVENqIXpTHREEqWOjFULL STOPjNUMBER EIGHTYqFIFTYrORTYqHUNDREDqNINETYqSEVENTYrIXTYqTEN
t THOUSANDrHIRTYrWENTYjPARAGRAPH SEPARATORkREFACE COLONjQUESTION MARKjSECTION MARKlMICOLON
kYLLABLE BAuAtBAvAuEvEuIuOuUtEuEtItOuAtUtWAuEvEuIsCAuAtCAvAuEvEuHAwAvEwEvHAxAwExEwIwOwUvIvOvUuIuOuU
tEuEtHAvAuEvEuIuOvAuUuWAtItOuAtUtWAsDAuAtDAvAuEvEuHAAvEwEvIvOvUuIuOvAuUuWAtEuEtItOuAtUtWAtZAAuEvEuI
uOuUsFAuAtEuEtItOtUtWAuEvEuItYAsGAuAtEuEtGAvAuEvEuIuOuUuWAwAvEwEvItItLOTTAL A$A!E$E!I!O$A!U!WAtOuA
tUuRAGE BWEE$IzFWEE$IzGWE%E$IzHHWAzKWE%E$IzMWEE$IzPWEE$IzQWE%E$ItWAvAuEvEuItYAvAuEvEuIuOuUsHAuAtEuE
tHAvAuEvEuIuOuUuWAvEwEvIuYAwAvEwEvIvOvUtItOuAtUsJAuAtEuEtItOuAtUtWAsKAuAtEuEtItOuAtUtWAvAuEvEuItXA
vAuEvEuIuOuUuWAwAvEwEvItYAvAuEvEuIuOuUsLAuAtEuEtItOuAtUtWAsMAuAtEuEtItOuAtUtWAuEvEuItYAsNAuAtEuEtI
tOuAtUtWAtYAvAuEvEuIuOvAuUuWAsPAuAtEuEtHAvAvRYNGEAL A(A&E(E&I&O&UuEvEuIuOvAuUuWAtItOuAtUtWAuEvEuI
sQAuAtEuEtHAvAuEvEuIuOuUuWAwAvEwEvItItOuAtUtWAvAuEvEuItYAvAuEvEuIuOuUsRAuAtEuEtItOuAtUtWAtYAsSAuAtE
uBATBEIT BWA%FWA%MWA%PWAuEtHAvAuEvEuIuOvAuUuWAtItOuAtSAvAuEvEuIuOuUtUtWAtZAvAuEvEuIuOuUuWAsTAuAtEuE
tHAvAuEvEuIuOvAuUuWAtItOuAtSAvAuEvEuIuOuUuWAtTHAAvEwEvIvOvUtUtWAtZAvAuEvEuIuOvAuUsVAuAtEuEtItOtUtWA
sWAuAtEuEtItOuAtUsXAuAtEuEtItOuAtUtWAvAuEvEuItYAvAuEvEuIuOuUsYAuAtEuEtItOuAtUsZAuAtEuEtHAvAuEvEuIuO
uUuWAtItOuAtUtWAtZAvAuEvEuIuOuUjTONAL MARK CHIRETuDERETz-HIDETvIFATuHIDETuKENATvURTuRIKRIK
uSHORT RIKRIKuYIZETjWORDSPACEcXbULER CONSTANTcRO SIGNe-CURRENCY SIGNePEAN CASTLEjPOST OFFICE
bVERGREEN TREEbXCESSdLAMATION MARKmQUESTION MARKcPRESSIONLESS FACEcTENDED ARABIC-INDIC DIGIT EIGHT
%FIVE&OUR%NINE%ONE%SEVEN&IX%THREE&WO%ZEROdRATERRESTRIAL ALIENeEMELY HEAVY FIVE SPOKED ASTERISK
qGREEK CROSSqSALTIRErIX SPOKED ASTERISKqWHITE CIRCLEwSQUAREbYEdGLASSESdSaFACE HOLDING BACK TEARS
fMASSAGEfPALMfSAVOURING DELICIOUS FOODgCREAMING IN FEARfTHROWING A KISSfWITH COLD SWEATmWBOY HAT
kDIAGONAL MOUTHkFINGER COVERING CLOSED LIPSkHEAD-BANDAGEkLOOK OF TRIUMPHkMEDICAL MASKlONOCLE
kNO GOOD GESTUREkOK GESTURElNE EYEBROW RAISEDlPEN EYES AND HAND OVER MOUTHpMOUTHu AND COLD SWEAT
vVOMITINGkPARTY HORN AND PARTY HATlEEKING EYElLEADING EYESkROLLING EYESkSTUCK-OUT TONGUE
! AND TIGHTLY-CLOSED EYES)WINKING EYEkTEARS OF JOYlHERMOMETERkUNEVEN EYES AND WAVY MOUTHjOUT MOUTH
dSIMILE SIGNdTORYcIRYcLAFELdLEN LEAFeING DIAGONAL CROSSING NORTH EAST ARROW!RISING DIAGONAL
rIN WHITE CIRCLE IN BLACK SQUAREcMILYcRSI SYMBOLcTHER CHRISTMAScX ICONeMACHINEbEARFUL FACEdTHER
cMALE SIGNdININE ORDINAL INDICATORcNCERcRRIS WHEELeYbFbIELD HOCKEY STICK AND BALLcGURE DASHhSPACE
cLE CABINETfFOLDERfSEPARATORdM FRAMESfPROJECTORcNITE PART INTEGRALcREe ENGINEgXTINGUISHEReCRACKER
eWORK SPARKLERiSdST PLACE MEDALgQUARTER MOONs SYMBOLtWITH FACEgSTRONG ISOLATEcSH
e CAKE WITH SWIRL DESIGNeEYEeING POLE AND FISHdTED HAND SIGNcVE DOT MARKjPUNCTUATIONbLAG IN HOLE
dMINGOdT SHOEeBREADeNESScEUR-DE-LISdXED BICEPScOPPY DISKdRAL HEARTdWERg PLAYING CARDS
iUNCTUATION MARKcUSHED FACEcYdING DISChENVELOPEhSAUCERbOGdGYcLDERcNDUEcOTePRINTScR ALLdCES
dK AND KNIFEo WITH PLATEeED PARAGRAPHOSeINGdM FEEDdTUNE COOKIEcUNTAINdR BALLOON-SPOKED ASTERISK
fCLUB-SPOKED ASTERISKgORNER ARROWS CIRCLING ANTICLOCKWISEfDOT MARKjPUNCTUATIONfLEAF CLOVER
fPOINTED BLACK STARfTEARDROP-SPOKED ASTERISKe-PER-EM SPACEeTH ROOTcX FACEbRACTION NUMERATOR ONE
jSLASHdME WITH AN XlPICTURElTILEScEEZING FACEdNCH FRANC SIGNjIEScIED SHRIMPcOG FACE
dNT-FACING BABY CHICKgTILTED SHADOWED WHITE RIGHTWARDS ARROWdWNfING FACE WITH OPEN MOUTHbScI
bUEL PUMPcLL BLOCKfMOON SYMBOLkWITH FACEfOUTER JOINfSTOPeWIDTH AMPERSANDlPOSTROPHElSTERISK
kBROKEN BARkCENT SIGNlIRCUMFLEX ACCENTlOLONmMMAoERCIAL ATkDIGIT EIGHTqFIVErOURqNINEqONEqSEVENrIX
qTHREErWOqZEROlOLLAR SIGNkEQUALS SIGNlXCLAMATION MARKkFULL STOPkGRAVE ACCENTmEATER-THAN SIGN
kHYPHEN-MINUSkLATIN CAPITAL LETTER A)B)C)D)E)F)G)H)I)J)K)L)M)N)O)P)Q)R)S)T)U)V)W)X)Y)Z
qSMALL LETTER A&B&C&D&E&F&G&H&I&J&K&L&M&N&O&P&Q&R&S&T&U&V&W&X&Y&ZlEFT CURLY BRACKETpPARENTHESIS
pSQUARE BRACKETpWHITE PARENTHESISmSS-THAN SIGNlOW LINEkMACRONkNOT SIGNlUMBER SIGNkPERCENT SIGN
lLUS SIGNlOUND SIGNkQUESTION MARKmOTATION MARKkREVERSE SOLIDUSlIGHT CURLY BRACKETqPARENTHESIS
qSQUARE BRACKETqWHITE PARENTHESISkSEMICOLONlOLIDUSkTILDEkVERTICAL LINEkWON SIGNkYEN SIGN
cNCTION APPLICATIONdERAL URNcSEbVS1d2d3d4aGAME DIEcRLICbEARe WITH HANDLESjOUT HUBcM STONEdINIcNIE
cOMETRIC PROPORTIONjALLY EQUAL TOrIVALENT TOdRGIAN CAPITAL LETTER AENzNyBANyCANzHAR!INzILyDONyEN
yGANzHANyHAE!RzEzIEzOEyINyJHANzILyKANzHARyLASyMANyNARyONyPARzHARyQARyRAEySANzHINyTAN!RyUNyVINyWE
yXANyYNyZENzHARjLETTER AENrINrNqBANqCANrHARsINrILqDONqELIFIrNqFIqGANrHANqHAEsRtD SIGNrErIErOEqIN
qJHANrILqKANrHARqLABIAL SIGNsSqMANqNARqONqPARrHARqQARqRAEqSANrHINqTANsRrURNED GANqUNqVINqWEqXANqYN
qZENrHARjMTAVRULI CAPITAL LETTER AEN,IN,N+BAN+CAN,HAR.IN,IL+DON+ELIFI,N+FI+GAN,HAN+HAE.R:D SIGN,E
,IE,OE+IN+JHAN,IL+KAN,HAR+LABIAL SIGN.S+MAN+NAR+ON+PAR,HAR+QAR+RAE+SAN,HIN+TAN.R,URNED GAN+UN+VIN
+WE+XAN+YN+ZEN,HARjPARAGRAPH SEPARATORjSMALL LETTER AENxNwBANwCANxHARyINxILwDONwENwGANxHANwHAEyRxE
xIExOEwINwJHANxILwKANxHARwLASwMANwNARwONwPARxHARwQARwRAEwSANxHINwTANyRwUNwVINwWEwXANwYNwZENxHAR
cRMAN PENNY SIGNcTA MARKbHOSTbIMEL SYMBOLcRAFFE FACEdLeS SYMBOLbLAGOLITIC CAPITAL LETTER AZU
!BIG YUS$UKY!CAUDATE CHRIVI$HRIVI!DJERVI$OBRO$ZELO!FITA$RITU!GLAGOLI!HERU!I$NITIAL IZHE
$OTATED BIG YUS,SMALL YUS$ZHE&ITSA!KAKO!LATINATE MYSLITE$JUDIJE!MYSLITE!NASHI!ONU$TU!PE$OKOJI!RITSI
!SHA%TA(PIC$LOVO$MALL YUS. WITH TAIL$PIDERY HA!TROKUTASTI A$SI$VRIDO!UKU!VEDE!YATI$ERI&U%STU$O$U
!ZEMLJA$HIVETElSMALL LETTER AZUyBIG YUSzUKYyCAUDATE CHRIVIzHRIVIyDJERVIzOBROzZELOyFITAzRITUyGLAGOLI
yHERUyIzNITIAL IZHEzOTATED BIG YUS*SMALL YUSzZHE$ITSAyKAKOyLATINATE MYSLITEzJUDIJEyMYSLITEyNASHI
yONUzTUyPEzOKOJIyRITSIySHA!TA%PICzLOVOzMALL YUS+ WITH TAILzPIDERY HAyTROKUTASTI AzSIzVRIDOyUKUyVEDE
yYATIzERI$U!STUzOzUyZEMLJAzHIVETEdSS OF MILKcEICH STARKcOBE WITH MERIDIANSdVESdWING STARbOAL NETdT
cGGLEScLFERcRILLAcTHIC LETTER AHSApIHVUSoBAIRKANoDAGSoEISoFAIHUoGIBAoHAGLpWAIRoIGGWSpUJAoJERoKUSMA
oLAGUSoMANNAoNAUTHSpINE HUNDREDsTYoOTHALoPAIRTHRAoQAIRTHRAoRAIDAoSAUILoTEIWSpHIUTHoURUSoWINJA
bRADUATION CAPdNTHA AU LENGTH MARKiLETTER AqAqIqUpBAqHApCAqHApDAqDArHAqHApEEpGAqHApHApIqIpJAqHApKA
qHApLAqLApMApNAqGAqNAqYApOOpPAqHApRApSAqHAqSApTAqHAqTArHApUqUpVAqEDIC ANUSVARAvDOUBLE ANUSVARA
qOCALIC LyLxRyRpYAiOMiSIGN ANUSVARAoVAGRAHAnCANDRABINDUoOMBINING ANUSVARA ABOVEnNUKTAnPLUTAnVIRAMA
pSARGAiVOWEL SIGN AAuIuUtEEtIuItOOtUuUtVOCALIC L%L$R%RdPESdVE ACCENT
cEATER-THAN ABOVE DOUBLE-LINE EQUAL ABOVE LESS-THANtLESS-THAN ABOVE DOUBLE-LINE EQUAL
tRIGHTWARDS ARROWtSIMILAR ABOVE LESS-THAN$OR EQUALuLANTED EQUAL ABOVE LESS-THAN ABOVE SLANTED EQUAL
oND NOT APPROXIMATErSINGLE-LINE NOT EQUAL TOnBESIDE LESS-THANoUT NOT EQUAL TOyIVALENT TO
nCLOSED BY CURVE% ABOVE SLANTED EQUALnEQUAL TO OR LESS-THANnOR APPROXIMATEqEQUAL TOtIVALENT TO
qLESS-THANqSLANTED EQUAL TO* WITH DOT ABOVE~E LEFT@INSIDEoVER EQUAL TOrLAPPING LESS-THANnSIGN
nWITH CIRCLE INSIDEsDOTsQUESTION MARK ABOVEdEK ACROPHONIC ATTIC FIFTY% STATERS&TALENTS(HOUSAND
; STATERSzVE$ HUNDRED. STATERS:TALENTS%STATERS%TALENTS&HOUSAND: TALENTSxONE DRACHMA$HALF
%UNDRED STATERS.TALENTS$QUARTER$THOUSAND STATERS:TALENTSxTEN MNAS$STATERS$TALENTS%HOUSAND STATERS
rCARYSTIAN FIVE HUNDREDsYRENAIC TWO DRACHMASrDELPHIC FIVE MNASrEPIDAUREAN FIVE HUNDRED%TWO
) DRACHMASrHERAEUM ONE PLETHRONuMIONIAN FIFTY%ONE%TENrMESSENIAN TENrNAXIAN FIVE HUNDRED
rSTRATIAN FIFTY MNASrTHESPIAN FIFTY%VE HUNDRED)THOUSAND!ONE& HUNDRED(THOUSAND!TEN$HIRTY%REE HUNDRED
$WOsROEZENIAN FIFTY+ ALTERNATE FORM(VE* HUNDRED%TEN) ALTERNATE FORMhNO TELEIAhROURA SIGNiTABE SIGN
gBETA SYMBOLgCAPITAL DOTTED LUNATE SIGMA SYMBOLoKAI SYMBOLoLETTER ALPHA! WITH DASIA; AND OXIA
~ AND PROSGEGRAMMENI@PERISPOMENI~SPOMENI AND PROSGEGRAMMENI^ROSGEGRAMMENI@VARIA
~A AND PROSGEGRAMMENI*MACRON*OXIA*PROSGEGRAMMENI+SILI; AND OXIA~ AND PROSGEGRAMMENI@PERISPOMENI
~SPOMENI AND PROSGEGRAMMENI^ROSGEGRAMMENI@VARIA~A AND PROSGEGRAMMENI*TONOS*VARIA+RACHYwRCHAIC SAMPI
vBETAvCHIvDELTAvEPSILON% WITH DASIA= AND OXIA_VARIA,OXIA,PSILI= AND OXIA_VARIA,TONOS,VARIAwTA
y WITH DASIA. AND OXIA_ AND PROSGEGRAMMENI>PERISPOMENI~OMENI AND PROSGEGRAMMENI?ROSGEGRAMMENI>VARIA
| AND PROSGEGRAMMENI(OXIA(PROSGEGRAMMENI)SILI. AND OXIA_ AND PROSGEGRAMMENI>PERISPOMENI
~OMENI AND PROSGEGRAMMENI?ROSGEGRAMMENI>VARIA| AND PROSGEGRAMMENI(TONOS(VARIAvGAMMAvHETAvIOTA
z WITH DASIA: AND OXIA?PERISPOMENI?VARIA*IALYTIKA)MACRON)OXIA)PSILI: AND OXIA?PERISPOMENI?VARIA
)TONOS)VARIA*RACHYvKAPPAvLAMDAvMUvNUvOMEGA! WITH DASIA; AND OXIA~ AND PROSGEGRAMMENI@PERISPOMENI
~SPOMENI AND PROSGEGRAMMENI^ROSGEGRAMMENI@VARIA~A AND PROSGEGRAMMENI*OXIA*PROSGEGRAMMENI+SILI
; AND OXIA~ AND PROSGEGRAMMENI@PERISPOMENI~SPOMENI AND PROSGEGRAMMENI^ROSGEGRAMMENI@VARIA
~A AND PROSGEGRAMMENI*TONOS*VARIAxICRON% WITH DASIA= AND OXIA_VARIA,OXIA,PSILI= AND OXIA_VARIA
,TONOS,VARIAvPAMPHYLIAN DIGAMMAwHIwIwSIvRHOy WITH DASIAvSANwHOwIGMAvTAUwHETAvUPSILON% WITH DASIA
= AND OXIA_PERISPOMENI_VARIA.IALYTIKA,MACRON,OXIA,TONOS,VARIA.RACHYvXIvYOTvZETApUNATE SIGMA SYMBOL
oREVERSED DOTTED LUNATE SIGMA SYMBOLxLUNATE SIGMA SYMBOLoTHETA SYMBOLgDASIAl AND OXIAqPERISPOMENI
qVARIAhIALYTIKA AND OXIAuPERISPOMENIuVARIAqTONOShRACHMA SIGNgFIVE OBOLS SIGNhOUR OBOLS SIGN
gGRAMMA SIGNgINDICTION SIGNiSTRUMENTAL NOTATION SYMBOL-1:1:2:3:4:7:8:9.2:3:4:5:6:7:9.30:2:6:7:8:9.4
:0:2:3:5:7:8:9.5:0:1:2:3:4.7.8gKAI SYMBOLiPPA SYMBOLhORONIShYATHOS BASE SIGNgLETTER ARCHAIC KOPPA
nDIGAMMAnKOPPAnSAMPIoMALL CAPITAL GAMMA$LAMDA$OMEGA$PI%SI$RHOoTIGMAnYOThITRA SIGNhOWER NUMERAL SIGN
hUNATE EPSILON SYMBOLnSIGMA SYMBOLgMETRETES SIGNhUSICAL LEIMMAgNUMERAL SIGNgOBOL SIGNhNE HALF SIGN
t ALTERNATE FORMkQUARTER SIGNhUNKIA SIGNhXIAgPERISPOMENIhHI SYMBOLhI SYMBOLhROSGEGRAMMENIhSILI
l AND OXIAqPERISPOMENIqVARIAgQUESTION MARKgREVERSED LUNATE EPSILON SYMBOLhHO SYMBOL
kWITH STROKE SYMBOLgSINUSOID SIGNhMALL DOTTED LUNATE SIGMA SYMBOLmLETTER ALPHAy WITH DASIA
. AND OXIA_ AND YPOGEGRAMMENI>PERISPOMENI~OMENI AND YPOGEGRAMMENI>VARIA| AND YPOGEGRAMMENI
>YPOGEGRAMMENI(MACRON(OXIA, AND YPOGEGRAMMENI(PERISPOMENI? AND YPOGEGRAMMENI)SILI. AND OXIA
_ AND YPOGEGRAMMENI>PERISPOMENI~OMENI AND YPOGEGRAMMENI>VARIA| AND YPOGEGRAMMENI>YPOGEGRAMMENI
(TONOS(VARIA. AND YPOGEGRAMMENI)RACHY(YPOGEGRAMMENIuRCHAIC KOPPA$SAMPItBETAtCHItDELTAuIGAMMA
tEPSILON! WITH DASIA; AND OXIA@VARIA*OXIA*PSILI; AND OXIA@VARIA*TONOS*VARIAuTAw WITH DASIA
+ AND OXIA@ AND YPOGEGRAMMENI<PERISPOMENI~ENI AND YPOGEGRAMMENI<VARIA^ AND YPOGEGRAMMENI
<YPOGEGRAMMENI%OXIA* AND YPOGEGRAMMENI%PERISPOMENI= AND YPOGEGRAMMENI&SILI+ AND OXIA
@ AND YPOGEGRAMMENI<PERISPOMENI~ENI AND YPOGEGRAMMENI<VARIA^ AND YPOGEGRAMMENI<YPOGEGRAMMENI%TONOS
%VARIA+ AND YPOGEGRAMMENI%YPOGEGRAMMENItFINAL SIGMAtGAMMAtHETAtIOTAx WITH DASIA, AND OXIA
=PERISPOMENI=VARIA(IALYTIKA< AND OXIA^PERISPOMENI^TONOS^VARIA&MACRON&OXIA&PERISPOMENI(SILI
, AND OXIA=PERISPOMENI=VARIA&TONOS&VARIA(RACHYtKAPPAuOPPAtLAMDAtMUtNUtOMEGAy WITH DASIA. AND OXIA
_ AND YPOGEGRAMMENI>PERISPOMENI~OMENI AND YPOGEGRAMMENI>VARIA| AND YPOGEGRAMMENI>YPOGEGRAMMENI(OXIA
, AND YPOGEGRAMMENI(PERISPOMENI? AND YPOGEGRAMMENI)SILI. AND OXIA_ AND YPOGEGRAMMENI>PERISPOMENI
~OMENI AND YPOGEGRAMMENI>VARIA| AND YPOGEGRAMMENI>YPOGEGRAMMENI(TONOS(VARIA. AND YPOGEGRAMMENI
(YPOGEGRAMMENIvICRON! WITH DASIA; AND OXIA@VARIA*OXIA*PSILI; AND OXIA@VARIA*TONOS*VARIA
tPAMPHYLIAN DIGAMMAuHIuIuSItRHOw WITH DASIA%PSILItSAMPIvNuHOuIGMAuTIGMAtTAUuHETAtUPSILON
! WITH DASIA; AND OXIA@PERISPOMENI@VARIA+IALYTIKA? AND OXIA~PERISPOMENI~TONOS~VARIA*MACRON*OXIA
*PERISPOMENI+SILI; AND OXIA@PERISPOMENI@VARIA*TONOS*VARIA+RACHYtXItZETA
mREVERSED DOTTED LUNATE SIGMA SYMBOLvLUNATE SIGMA SYMBOLhUBSCRIPT SMALL LETTER BETA&CHI&GAMMA&PHI
&RHOhYMBOL TAU RHOgTALENT SIGNhHETA SYMBOLiREE OBOLS SIGNmQUARTERS SIGNhONOShRYBLION BASE SIGN
hWO OBOLS SIGNkTHIRDS SIGNgUPSILON WITH ACUTE AND HOOK SYMBOLtDIAERESIS AND HOOK SYMBOLtHOOK SYMBOL
gVARIAhOCAL NOTATION SYMBOL-1&0&1&2&3&4&5&6&7&8&9%2&0&1&2&3&4%3%4%5&0&1&2&3&4%6%7%8%9gXESTES SIGN
gYEAR SIGNhPOGEGRAMMENIgZERO SIGNeN APPLEgBOOKgHEARTgSALADcIMACING FACE
dNNING CAT FACE WITH SMILING EYESjFACEn WITH ONE LARGE AND ONE SMALL EYEtSMILING EYESuTAR EYES
cOUP MARKgSEPARATORdWING HEARTbSbUARANI SIGNeDSMANcIDE DOGdTARcJARATI ABBREVIATION SIGNjDIGIT EIGHT
pFIVEqOURpNINEpONEpSEVENqIXpTHREEqWOpZEROjLETTER ArArIrUqBArHAqCArHAqDArDAsHArHAqEqGArHAqHAqIrIqJA
rHAqKArHAqLArLAqMAqNArGArNArYAqOqPArHAqRAqSArHArSAqTArHArTAsHAqUrUqVArOCALIC LzLyRzRqYAqZHAjOM
jRUPEE SIGNjSIGN ANUSVARApVAGRAHAoCANDRABINDUpIRCLE NUKTA ABOVEoMADDAHoNUKTAoSHADDApUKUN
oTHREE-DOT NUKTA ABOVEpWO-CIRCLE NUKTA ABOVEoVIRAMAqSARGAjVOWEL CANDRA EwOpSIGN AAvIvUuCANDRA E$OuE
uIvIuOuUvUuVOCALIC L&L%R&RcNJALA GONDI DIGIT EIGHTuFIVEvOURuNINEuONEuSEVENvIXuTHREEvWOuZERO
oLETTER AwAwIwUvBAwHAvCAwHAvDAwDAxHAwHAvEEvGAwHAvHAvIwIvJAwHAvKAwHAvLAwLAvMAvNAwGAvOOvPAwHAvRAvSA
vTAwHAwTAxHAvUwUvVAvYAoOMoSIGN ANUSVARAtVISARGAoVIRAMApOWEL SIGN AA!I!UzEEzI!IzOOzU!U
cRMUKHI ABBREVIATION SIGNkDDAKjDIGIT EIGHTpFIVEqOURpNINEpONEpSEVENqIXpTHREEqWOpZEROjEK ONKARjIRI
jLETTER ArArIrUqBArHAqCArHAqDArDAsHArHAqEEqFAqGArHAsHAqHAqIrIqJArHAqKArHAsHAqLArLAqMAqNArGArNArYA
qOOqPArHAqRArRAqSArHAqTArHArTAsHAqUrUqVAqYAqZAjSIGN ADAK BINDIoBINDIoNUKTAoUDAAToVIRAMAqSARGA
oYAKASHjTIPPIjURAjVOWEL SIGN AAvIvUuEEuIvIuOOuUvUaHADEScIR SPACEeCUTcLFWIDTH BLACK SQUARE
kDOWNWARDS ARROWkFORMS LIGHT VERTICALkHANGUL FILLERrLETTER AzEyCHIEUCHzIEUCyEzOzUyHIEUHyIzEUNG
yKHIEUKHzIYEOK(-SIOSyMIEUMyNIEUN&-CIEUC(HIEUHyOzEyPHIEUPHzIEUP&-SIOSyRIEUL&-HIEUH(KIYEOK(MIEUM
(PHIEUPH)IEUP(SIOS(THIEUTHySIOSzSANGCIEUC&KIYEOK&PIEUP&SIOS&TIKEUTyTHIEUTHzIKEUTyUyWA!EzE!OzIyYA!E
zE!OzIzOzUkIDEOGRAPHIC COMMAwFULL STOPkKATAKANA LETTER A!E!HA$E$I$O$U!I!KA$E$I$O$U!MA$E$I$O$U!N$A$E
$I$O$U!O!RA$E$I$O$U!SA$E$I$MALL A*E*I*O*TU*U*YA+O+U$O$U!TA$E$I$O$U!U!WA$O!YA$O$UtMIDDLE DOT
tSEMI-VOICED SOUND MARKtVOICED SOUND MARKs-HIRAGANA PROLONGED SOUND MARKkLEFT CORNER BRACKET
oWARDS ARROWkRIGHT CORNER BRACKETpWARDS ARROWkUPWARDS ARROWkWHITE CIRCLEcMBURGERdMERg AND PICK
lSICKLElWRENCHdSAeTER FACEcND WITH INDEX AND MIDDLE FINGERS CROSSEDqFINGER AND THUMB CROSSEDeBAGgLL
eSHAKEdGUL CHOSEONG CEONGCHIEUMCHIEUCH%IEUC$SIOS%SANGCIEUC*SIOSrHIEUCHx-HIEUHyKHIEUKHtTUEUMCHIEUCH
zIEUCySIOSzSANGCIEUC&SIOSrIEUCv-IEUNGqFILLERqHIEUHv-SIOSqIEUNGv-CHIEUCHxIEUCwHIEUHwKIYEOKwMIEUM
wPANSIOSxHIEUPHxIEUPwRIEULwSIOSwTHIEUTHxIKEUTqKAPYEOUNMIEUMyPHIEUPHzIEUPyRIEULySSANGPIEUPrHIEUKH
rIYEOKw-TIKEUTqMIEUMv-KIYEOKwPIEUPwSIOSwTIKEUTqNIEUNv-CIEUCwHIEUHwKIYEOKwPIEUPwSIOSwTIKEUTqPANSIOS
rHIEUPHx-HIEUHyPIEUPrIEUPv-CHIEUCHxIEUCwHIEUHwKHIEUKHxIYEOKwNIEUNwPHIEUPHwSIOS!-CIEUC$KIYEOK$PIEUP
$THIEUTH%IKEUTxSANGSIOSwTHIEUTHxIKEUTqRIEULv-CIEUCwHIEUHwKAPYEOUNPIEUPxHIEUKHxIYEOKwMIEUMwNIEUN
wPIEUPwSIOSxSANGKIYEOK$PIEUP$TIKEUTwTIKEUTqSIOSu-CHIEUCHwIEUCvHIEUHvIEUNGvKHIEUKHwIYEOKvMIEUMvNIEUN
vPHIEUPHwIEUP!-KIYEOKvRIEULvSSANGSIOSvTHIEUTHwIKEUTrSANGCIEUC!-HIEUHvHIEUHvIEUNGvKIYEOKvNIEUNvPIEUP
vRIEULvSIOSz-PIEUPvTHIEUTHwIKEUTvYEORINHIEUHqTHIEUTHrIKEUTw-CIEUCxKIYEOKxMIEUMxPIEUPxRIEULxSIOS
qYEORINHIEUHsSIEUNGhDOUBLE DOT TONE MARKhFILLERhJONGSEONG CHIEUCHsIEUCw-PIEUPxSSANGPIEUPrHIEUH
w-MIEUMxNIEUNxPIEUPxRIEULrIEUNGw-KHIEUKHyIYEOKxSSANGKIYEOKrKAPYEOUNMIEUMzPHIEUPH!IEUPzRIEULsHIEUKH
sIYEOKx-CHIEUCHyHIEUHyKHIEUKHyNIEUNyPIEUPyRIEULySIOS%-KIYEOKrMIEUMw-CHIEUCHyIEUCxHIEUHxKIYEOKxNIEUN
xPANSIOSyIEUP%-SIOSxRIEULxSIOSySANGNIEUN%SIOSrNIEUNw-CHIEUCHyIEUCxHIEUHxKIYEOKxPANSIOSxRIEULxSIOS
xTHIEUTHyIKEUTrPANSIOSy-KAPYEOUNPIEUPzPIEUPsHIEUPHy-PIEUPzSIOSzTHIEUTHsIEUPw-CHIEUCHyIEUCxHIEUH
xMIEUMxPHIEUPHxRIEUL%-PHIEUPHxSIOS$-TIKEUTxTIKEUTrRIEULw-HIEUHxKAPYEOUNPIEUPyHIEUKHyIYEOK&-HIEUH
(SIOSxMIEUM%-HIEUH&KIYEOK&SIOSxNIEUNxPANSIOSyHIEUPHyIEUP%-HIEUH&PHIEUPH&SIOS&TIKEUTxSIOSySANGKIYEOK
%SIOSxTHIEUTHyIKEUT&-HIEUHxYEORINHIEUH,-HIEUHzSIEUNGrSIOSv-CHIEUCHxIEUCwHIEUHwKAPYEOUNPIEUPxIYEOK
wMIEUMwPANSIOSxIEUPwRIEULwTHIEUTHxIKEUTsSANGCIEUCwIEUNGwKIYEOKwMIEUMwNIEUNwPIEUPwRIEUL$-KHIEUKH
wSIOS!-KIYEOK$TIKEUTwTIKEUT%-PIEUPwYESIEUNGrTHIEUTHsIKEUTx-CHIEUCHzIEUCyKIYEOKyPIEUPyRIEULySIOS
%-KIYEOKyTHIEUTHrYEORINHIEUHtSIEUNGz-HIEUH!KHIEUKH$IYEOK!MIEUM!PANSIOS!SIOS$SANGKIYEOKiUNGSEONG A
s-EUtOtUsEsRAEAw-AxEyOxIxUrEsOt-EUuOuUsUt-AuEvOvUuOuUrFILLERrIs-AuRAEAtEUtItOu-ItUtYAv-OvEuEvOuOuU
rOs-EuOtOu-ItUtYAvEuEvOsErSSANGARAEArUs-AuEtEO-EUtI-ItUtYEvOrWAtEsEtOsIrYAt-OuUuYOtEsEtOu-OvUvYAsI
t-UsOt-AvEuEOuIuOuYAwEvEOsUt-AvEuEvOuIuOuUuYEwOhLETTER ApEpRAEAtEoCHIEUCHpIEUCoEpOpUoHIEUHoIpEUNG
oKAPYEOUNMIEUMwPHIEUPHxIEUPwSSANGPIEUPpHIEUKHpIYEOKu-SIOSoMIEUMt-PANSIOSvIEUPuSIOSoNIEUNt-CIEUC
uHIEUHuPANSIOSuSIOSuTIKEUToOpEoPANSIOSpHIEUPHpIEUPt-CIEUCuKIYEOKuSIOSy-KIYEOKzTIKEUTuTHIEUTHvIKEUT
oRIEULt-HIEUHuKIYEOK!-SIOSuMIEUMuPANSIOSvHIEUPHvIEUPz-SIOSuSIOSuTHIEUTHvIKEUTuYEORINHIEUHoSIOS
s-CIEUCtKIYEOKtNIEUNtPIEUPtTIKEUTpSANGCIEUCtHIEUHtIEUNGtKIYEOKtNIEUNtPIEUPtSIOStTIKEUToTHIEUTH
pIKEUToUoWAqEpEqOpIoYAqEpEqOrRINHIEUHqSIEUNGw-PANSIOSxSIOSpIpOq-IrYAtEpUq-IrYEtO
hSINGLE DOT TONE MARKeZHOU NUMERAL EIGHTrFIVEsOURrNINErONErSEVENsIXrTENsHIRTYtREEsWENTYtO
dIFI ROHINGYA DIGIT EIGHTwFIVExOURwNINEwONEwSEVENxIXwTHREExWOwZEROqLETTER AxBAxCAxDAyDAxFAxGAxHAxJA
xKAyHAyINNA WA&YAxLAxMAxNAyGAyYAxPAxRAyRAxSAyHAxTAyTAxVAxWAxYAxZAqMARK NA KHONNAvSAKIN
qSIGN HARBAHAYvTAHALAxNAxSSIqVOWEL AwEwIwOwUdUNOO LETTER ApBApDApGApHApIpKApLApMApNAqGApPApRApSApTA
pUpWApYAiSIGN PAMUDPODiVOWEL SIGN ItUcPPY PERSON RAISING ONE HANDcRD DISKcTCHING CHICK
dRAN LETTER ALEPHpYNoBETHoDALETH-RESHoGIMELoHEqTHoKAPHoLAMEDHoMEMoNUNoPEoQOPHoSADHEqMEKHpHINoTAW
pETHoWAWoYODHoZAYNhNUMBER FIVEoONEr HUNDREDoTENpWENTYbEADPHONEeSTONEj GRAVEYARD SYMBOL
dR-NO-EVIL MONKEYeT DECORATIONgHANDSgWITH ARROWlRIBBONlTIP ON THE LEFTdVY AMPERSAND ORNAMENT
hRROW SHAFT WIDTH ONE$ HALF%THIRDyTWO THIRDShSTERISKgBALLOT X
hLACK CURVED DOWNWARDS AND RIGHTWARDS ARROWtUPWARDS AND RIGHTWARDS ARROWmHEART
l-FEATHERED NORTH EAST ARROWwRIGHTWARDS ARROWwSOUTH EAST ARROWgCHECK MARKjVRON SNOWFLAKEhIRCLE
m WITH CIRCLE INSIDEsSTROKE AND TWO DOTS ABOVEmD SALTIREhONCAVE-POINTED BLACK RIGHTWARDS ARROW
gDASHED TRIANGLE-HEADED RIGHTWARDS ARROWhIVISION SIGNhOLLAR SIGNiUBLE COMMA QUOTATION MARK ORNAMENT
nTURNED COMMA QUOTATION MARK ORNAMENTiWNWARDS ARROW WITH EQUILATERAL ARROWHEAD
$LARGE EQUILATERAL ARROWHEADgEIGHT POINTED BLACK STARuPINWHEEL STARuRECTILINEAR BLACK STAR
mSPOKED ASTERISKmTEARDROP-SPOKED PROPELLER ASTERISKhQUALS SIGNhXCLAMATION MARK ORNAMENTxSYMBOL
gFIVE POINTED BLACK STARlSPOKED ASTERISKhOUR BALLOON-SPOKED ASTERISKgGREEK CROSS
gHEART EXCLAMATION MARK ORNAMENThORIZONTAL FILLgINTERROBANG ORNAMENTgLARGE CIRCLEiTIN CROSS
hEFT-POINTING ANGLE BRACKET ORNAMENT!QUOTATION MARK ORNAMENTkWARDS ARROW WITH EQUILATERAL ARROWHEAD
$LARGE EQUILATERAL ARROWHEADhIGATURE OPEN ET ORNAMENThOW DOUBLE COMMA QUOTATION MARK ORNAMENT
kSINGLE COMMA QUOTATION MARK ORNAMENTjER RIGHT-SHADOWED WHITE RIGHTWARDS ARROWgMINUS SIGN
hULTIPLICATION XgNORTH EAST ARROWrPOINTING BUD!VINE LEAFmWEST POINTING BUD!VINE LEAF
gOPEN CENTRE CROSShUTLINED BLACK STARhVAL WITH OVAL INSIDEgPLUS SIGN
gRIGHT-POINTING ANGLE BRACKET ORNAMENT$QUOTATION MARK ORNAMENTlWARDS ARROW
w WITH EQUILATERAL ARROWHEAD%LARGE EQUILATERAL ARROWHEADhOUND-TIPPED RIGHTWARDS ARROWgSALTIRE
iNS-SERIF INTERROBANG ORNAMENThCRIPT LIGATURE ET ORNAMENThINGLE COMMA QUOTATION MARK ORNAMENT
nTURNED COMMA QUOTATION MARK ORNAMENTiX POINTED BLACK STARkSPOKED ASTERISKhOUTH EAST ARROW
rPOINTING BUD!VINE LEAFmWEST POINTING BUD!VINE LEAFhPARKLEgTEARDROP-SHANKED RIGHTWARDS ARROW
qPOKED ASTERISKwPINWHEEL ASTERISKhRIANGLE-HEADED RIGHTWARDS ARROWhWELVE POINTED BLACK STAR
vPINWHEEL STARgUPPER RIGHT-SHADOWED WHITE RIGHTWARDS ARROWiWARDS ARROW WITH EQUILATERAL ARROWHEAD
zLARGE EQUILATERAL ARROWHEADgVERTICAL BARgWEDGE-TAILED RIGHTWARDS ARROWhHITE CIRCLE
mDOWN-POINTING TRIANGLEmSQUAREhIDE-HEADED RIGHTWARDS ARROWcBREW ACCENT ATNAH HAFUKHoDARGApEHI
oETNAHTAoGERESHu MUQDAMrSHAYIMoILUYoMAHAPAKHpERKHAu KEFULApUNAHoOLEoPASHTAqZERoQADMAqRNEY PARA
oREVIAoSEGOLpHALSHELEToTELISHA GEDOLAwQETANAqVIRpIPEHAoYERAH BEN YOMOqTIVoZAQEF GADOLuQATANqRQA
pINORhLETTER ALEFs WITH MAPIQyPATAHyQAMATSqTERNATIVE AYIN!PLUS SIGNpYINoBETr WITH DAGESHxRAFEoDALET
t WITH DAGESHoFINAL KAFx WITH DAGESHuMEMuNUNuPEw WITH DAGESHuTSADIoGIMELt WITH DAGESHoHE
q WITH MAPIQqToKAFr WITH DAGESHxRAFEoLAMEDt WITH DAGESHoMEMr WITH DAGESHoNUNr WITH DAGESHoPE
q WITH DAGESHwRAFEoQOFr WITH DAGESHoRESHs WITH DAGESHoSAMEKHu WITH DAGESHpHINs WITH DAGESH
( AND SHIN DOT:IN DOTySHIN DOTzIN DOToTAVr WITH DAGESHpETr WITH DAGESHpSADIt WITH DAGESHoVAV
r WITH DAGESHxHOLAMoWIDE ALEFtDALETtFINAL MEMtHEtKAFtLAMEDtRESHtTAVoYODr WITH DAGESHxHIRIQoZAYIN
t WITH DAGESHiIGATURE ALEF LAMEDqYIDDISH DOUBLE VAV)YODyVAV YODyYOD YOD PATAHhMARK LOWER DOT
mMASORA CIRCLEmUPPER DOThPOINT DAGESH OR MAPIQnHATAF PATAHtQAMATStSEGOLoIRIQoOLAMs HASER FOR VAV
nJUDEO-SPANISH VARIKAnMETEGnPATAHnQAMATSt QATANoUBUTSnRAFEnSEGOLoHEVApIN DOToIN DOTnTSERE
iUNCTUATION GERESHwSHAYIMtMAQAFtNUN HAFUKHAtPASEQtSOF PASUQhYOD TRIANGLEcDGEHOGcLICOPTER
dLSCHREIBER PAUSE SYMBOLdM SYMBOLeET WITH WHITE CROSScNTAIGANA LETTER A-1u2u3uWOsE-1u2u3u4u5u6sHA-1
w0w1v2v3v4v5v6v7v8v9tE-1v2v3v4v5v6v7tI-1v2v3v4v5v6v7tO-1v2v3v4v5v6v7v8tU-1v2v3sI-1u2u3u4sKA-1w0w1v2
v3v4v5v6v7v8v9vKEtE-1v2v3v4v5v6tI-1v2v3v4v5v6v7v8tO-1v2v3vKItU-1v2v3v4v5v6v7sMA-1v2v3v4v5v6v7tE-1v2
vMAtI-1v2v3v4v5v6v7tO-1v2v3v4v5v6tU-1v2v3v4sN-MU-MO-1!2tA-1v2v3v4v5v6v7v8v9tE-1v2v3v4v5v6vKOtI-1v2
v3v4v5v6v7vTEtO-1v2v3v4v5tU-1v2v3sO-1u2u3sRA-1v2v3v4tE-1v2v3v4tI-1v2v3v4v5v6v7tO-1v2v3v4v5v6tU-1v2
v3v4v5v6sSA-1v2v3v4v5v6v7v8tE-1v2v3v4v5tI-1v2v3v4v5v6tO-1v2v3v4v5v6v7tU-1v2v3v4v5v6v7v8sTA-1v2v3v4
tE-1v2v3v4v5v6v7v8v9tI-1v2v3v4v5v6v7tO-1v2v3v4v5v6vRAtU-1v2v3v4vTOsU-1u2u3u4u5sWA-1v2v3v4v5tE-1v2v3
v4tI-1v2v3v4v5tO-1v2v3v4v5v6v7sYA-1v2v3v4v5vYOtO-1v2v3v4v5v6tU-1v2v3v4cRBdMITIAN CONJUGATE MATRIX
cXAGRAM FOR ABUNDANCEoFTER COMPLETIONoPPROACHnBEFORE COMPLETIONoITING THROUGHoREAKTHROUGH
nCOMING TO MEETpNFLICTqTEMPLATIONnDARKENING OF THE LIGHToECREASEpLIVERANCEpVELOPMENT
oIFFICULTY AT THE BEGINNINGpSPERSIONoURATIONnENTHUSIASMnFELLOWSHIPoOLLOWINGnGATHERING TOGETHERoRACE
pEAT POSSESSIONvWERuREPONDERANCEtTAMINGnHOLDING TOGETHERnINCREASEpFLUENCEpNER TRUTHqOCENCE
nLIMITATIONnMODESTYpUTH CORNERSnOBSTRUCTIONoPPOSITIONqRESSIONnPEACEoROGRESSoUSHING UPWARDnRETREAT
qURNpVOLUTIONnSMALL PREPONDERANCEtTAMINGoPLITTING APARToTANDSTILLnTHE ABYSMAL WATERsRMY
tOUSING THUNDERrCAULDRONsLINGING FIREsREATIVE HEAVENrFAMILYrGENTLE WINDrJOYOUS LAKE
rKEEPING STILL MOUNTAINrMARRYING MAIDENrRECEPTIVE EARTHrWANDERERsELLoREADINGnWAITING
oORK ON THE DECAYEDnYOUTHFUL FOLLYbIBISCUScGH BRIGHTNESS SYMBOLfOCTET PRESETfVOLTAGE SIGN
e-HEELED SHOEfSPEED TRAINq WITH BULLET NOSEcKING BOOTcNDU TEMPLEcPPOPOTAMUScRAGANA DIGRAPH YORI
jITERATION MARKjLETTER ArRCHAIC WUyYEqBArErIrOrUqDArErIrOrUqEqGArErIrOrUqHArErIrOrUqIqKArErIrOrUqMA
rErIrOrUqNrArErIrOrUqOqPArErIrOrUqRArErIrOrUqSArErIrMALL AwEwIwKAxEwOwTUwUwWAxExIxOwYAxOxUrOrUqTArE
rIrOrUqUqVUqWArErIrOqYArOrUqZArErIrOrUjVOICED ITERATION MARKcSTORIC SITEbOCHOcLE
dLOW QUILT SQUARE ORNAMENT% IN BLACK SQUAREcMOTHETICcNEY POTfBEEcOKcPcRIZONTAL BARmLACK HEXAGON
rOCTAGONlELLIPSISlLINE EXTENSIONlMALE WITH STROKE SIGNlONE EIGHTH BLOCK-1358%2%3%4%5%6%7
lSCAN LINE-1v3v7v9lTAB KEYoULATIONv SETwWITH JUSTIFICATIONmRAFFIC LIGHTdSEf FACEgRACINGcSPITAL
cT BEVERAGEeDOGePEPPEReSPRINGSdELcURGLASSj WITH FLOWING SANDdSEf BUILDINGoSgWITH GARDENbRYVNIA SIGN
bTcJcSbUGGING FACEcNDRED POINTS SYMBOLcSHED FACEcTbYGIEAcPHENg BULLEThWITH DIAERESISg-MINUS
gATION POINTdODIASTOLEcSTERESIS SYMBOLaI LOVE YOU HAND SIGNbCE CREAMfUBEeHOCKEY STICK AND PUCK
eSKATEbDENTICAL TOm AND SLANTED PARALLELkWITH DOT ABOVEgFICATION CARD
dOGRAPHIC ANNOTATION BOTTOM MARKxEARTH MARKxFIRST MARKyOUR MARK$TH MARKxHEAVEN MARKxLINKING MARK
xMAN MARKyIDDLE MARKxONE MARKxREVERSE MARKxSECOND MARKxTHIRD MARKzREE MARKyOP MARKyWO MARK
mCLOSING MARKnOMMAmDEPARTING TONE MARKoSCRIPTION CHARACTER ABOVE TO BELOW^MIDDLE AND BELOW
,FULL SURROUND,LEFT TO MIDDLE AND RIGHT@RIGHT,OVERLAID,SURROUND FROM ABOVE~M BELOW~M LEFT
~M LOWER LEFT~M UPPER LEFT~M UPPER RIGHTmENTERING TONE MARKmFULL STOPmHALF FILL SPACE
mITERATION MARKmLEVEL TONE MARKmNUMBER ZEROmRISING TONE MARKmSPACEmTALLY MARK FIVEyOURxONExTHREEyWO
nELEGRAPH LINE FEED SEPARATOR SYMBOLwSYMBOL FOR APRIL,UGUST+DAY EIGHT@EEN<LEVEN;FIFTEEN=VE<OUR?TEEN
;NINE?TEEN;ONE;SEVEN@TEEN<IX>TEEN;TEN<HIRTEEN@Y^-ONE=REE<WELVE>NTY^-EIGHT_FIVE|OUR_NINE_ONE_SEVEN
|IX_THREE|WO=O,ECEMBER+FEBRUARY+HOUR EIGHT^EEN=LEVEN<FIFTEEN>VE=OUR@TEEN<NINE@TEEN<ONE<SEVEN^TEEN
=IX?TEEN<TEN=HIRTEEN>REE=WELVE?NTY_-FOUR|ONE|THREE~WO>O<ZERO+JANUARY,ULY.NE+MARCH.Y+NOVEMBER
+OCTOBER+SEPTEMBERmVARIATION INDICATORbMAGE OFi OR APPROXIMATELY EQUAL TOcP
dERIAL ARAMAIC LETTER ALEPHzYINyBETHyDALETHyGIMELyHE!THyKAPHyLAMEDHyMEMyNUNyPEyQOPHyRESHySADHE!MEKH
zHINyTAWzETHyWAWyYODHyZAYINrNUMBER ONE$ HUNDRED%THOUSANDyTEN$ THOUSANDzHREEzWENTY!OrSECTION SIGN
bNBOX TRAYcCOMING ENVELOPEfPLETE INFINITYdREASE FONT SIZE SYMBOLiS ASfMENTcDdEX
f POINTING AT THE VIEWERdIAN RUPEE SIGNeC SIYAQ ALTERNATE LAKH MARKmFRACTION ONE HALFzQUARTER
vTHREE QUARTERSmLAKH MARKmNUMBER ALTERNATE ONE&TEN THOUSAND(WOtEIGHTy HUNDREDzTHOUSANDyYz THOUSAND
tFIFTYy THOUSANDvVEx HUNDREDyTHOUSANDuORTYy THOUSANDvURx HUNDREDyTHOUSANDtKARORyANtLAKHxANtNINE
x HUNDREDyTHOUSANDxTYz THOUSANDtONEw HUNDREDxTHOUSANDtPREFIXED EIGHT%FIVE&OUR%NINE%ONE%SEVEN&IX
%THREE&WOtSEVENy HUNDREDzTHOUSANDyTY! THOUSANDuIXw HUNDREDxTHOUSANDwTYy THOUSANDtTENw THOUSAND
uHIRTYz THOUSANDvREEy HUNDREDzTHOUSANDuWENTYz THOUSANDvOw HUNDREDxTHOUSANDmPLACEHOLDERmRUPEE MARK
cFINITYi NEGATED WITH VERTICAL BARdORMATION DESK PERSONmSEPARATOR FOURwONEwTHREExWOnOURCE
cHIBIT ARABIC FORM SHAPINGiSYMMETRIC SWAPPINGcPUT SYMBOL FOR LATIN CAPITAL LETTERSxLETTERS
xSMALL LETTERSrNUMBERSrSYMBOLScSCRIPTIONAL PAHLAVI LETTER ALEPH&BETH&DALETH&GIMEL&HE)TH&KAPH&LAMEDH
&MEM-QOPH&NUN&PE&SADHE)MEKH(HIN&TAW(ETH&WAW-AYIN-RESH&YODH&ZAYINwNUMBER FOUR&ONE* HUNDRED+THOUSAND
&TEN(HREE(WENTY)OqRTHIAN LETTER ALEPH)YIN(BETH(DALETH(GIMEL(HE*TH(KAPH(LAMEDH(MEM(NUN(PE(QOPH(RESH
(SADHE*MEKH)HIN(TAW)ETH(WAW(YODH(ZAYINxNUMBER FOUR(ONE+ HUNDRED,THOUSAND(TEN)HREE)WENTY*O
dERTION SYMBOLcTEGRALi AROUND A POINT OPERATORkVERAGE WITH SLASHjEXTENSIONjWITH DOUBLE STROKE
oINTERSECTIONoLEFTWARDS ARROW WITH HOOKoOVERBARoTIMES SIGNoUNDERBARqIONeRCALATEfIOR PRODUCT
fLINEAR ANNOTATION ANCHORxSEPARATORxTERMINATORgOCKED FEMALE AND MALE SIGNfROBANGfSECTION
m ABOVE BAR ABOVE UNIONtUNIONnBESIDE AND JOINED WITH INTERSECTIONnWITH DOTsLOGICAL ANDsOVERBAR
cVERSE BULLETiCHECK MARKnER BOARD FILLiDOWNWARDS ARROW WITH TIP LEFTWARDSiMEDIUM SHADEiWHITE CIRCLE
fTED EXCLAMATION MARKjINTERROBANGjLAZY SkOW KAVYKAt WITH KAVYKA ABOVEjOHM SIGNjPENTAGRAM
jQUESTION MARKjUNDERTIEdISIBLE PLUSkSEPARATORkTIMESbZAKAYA LANTERNaJACK-O-LANTERN
cPANESE BANK SYMBOLjCASTLEjDOLLSjGOBLINjINDUSTRIAL STANDARD SYMBOLjOGREjPOST OFFICE
jSYMBOL FOR BEGINNERcRcVANESE CONSONANT SIGN CAKRAyKERETyPENGKALjDIGIT EIGHTpFIVEqOURpNINEpONE
pSEVENqIXpTHREEqWOpZEROjLEFT RERENGGANlTTER ArIqBAs MURDAqCAs MURDAqDAs MAHAPRANArDAt MAHAPRANAqE
qGAs MURDAqHAqIr KAWIrIqJAs MAHAPRANAqKAs MURDAtSASAKqLAqMAqNAs MURDArGAt LELETz RASWADIrYAt MURDA
qOqPAs CEREKtMURDAqRAs AGUNGqSAs MAHAPRANAuURDAqTAs MURDArTAt MAHAPRANAqUqWAqYAjPADA ADEGs ADEG
pNDAPoISEN-ISENoLINGSApUHURqNGSIoMADYAoPANGKATpISELEHoTIRTA TUMETESoWINDUlNGKONnRANGKEP
jRIGHT RERENGGANjSIGN CECAKt TELUoLAYARoPANYANGGAoWIGNYANjTURNED PADA PISELEHjVOWEL SIGN DIRGA MURE
uPEPETuSUKUy MENDUTuTALINGwRUNGvOLONGuWULUy MELIKbEANSbIGSAW PUZZLE PIECEbOINcYSTICKbUGGLINGcNO
cPITERaKAABAcITHI ABBREVIATION SIGNhDANDAiOUBLE DANDAoSECTION MARKhENUMERATION SIGNhLETTER ApApIpU
oBApHAoCApHAoDApDAqDHAqHApHAoEoGApHAoHAoIpIoJApHAoKApHAoLAoMAoNApGApNApYAoOoPApHAoRApHAoSApHApSAoTA
pHApTAqHAoUpUoVAoYAhNUMBER SIGNs ABOVEhSECTION MARKiIGN ANUSVARAmCANDRABINDUmNUKTAmVIRAMAoSARGA
hVOWEL SIGN AAtItUsEsItIsOsUtUsVOCALIC RcNGAROOeXI RADICAL AGAINqNDqRRIVEsOWqXEpBADGERrMBOOqEANqIG
rRDrTTERqLACKrOODrUEqOATrDYrLT OF CLOTHrNErWqRANCHrISTLErUSHpCARTrULDRONrVEqHILDqITYqLANsWrIFF
rOTHESqOLORrMPARErRPSErVERrWpDEATHrERqIPPERrSHsTINGUISHrVINATIONqO NOTrGrORrTsTED CLIFFwTENTrUBLE X
rWN BOXqRAGONrUMrYpEARsTHrTqIGHTqMBROIDERYqNCLOSURErTERqVENtINGqYEpFACErNGrTHERqEATHERqIELDrGHTrRE
rSHqLUTErYqOOTqRAGRANTrOGqURpGATEqHOSTqOr SLOWLYrLDqRAINsSSpHAIRrLBERDsF TREE TRUNKrNDqEADsRTrMP
qIDING ENCLOSUREqOOKrRNsSEpICEqNCHrSECTpJADErRpKNIFEpLACKrMEqEAFsTHERrEKrGSqIDrFErNEqONGt STRIDE
pMANqEATrLONqILLETrNISTERqOONrRNINGsTARrUNDtTAINsTHpNETqOSErTpOLDqNEsSELFqPEN BOXrPOSEpPIGqLOWqOWER
qRIVATErOFOUNDpRAINrPrTqEDqICErGHT OPEN BOXrVERqOOFqUNpSACRIFICIAL WINErLTrYqCHOLARrRIPTqEALrCONDrE
rLFqHEEPsLLrOOTsRT TAILED BIRDwHREADqICKNESSrLKqKINqLASHsVErICEqMALLqNOUTqOUNDqPEARsECHrIRITrOON
rROUTqQUAREqTANDrEAMsPrONEsPtPINGqUNqWEETpTABLErLLrNNED LEATHERqENqIGERrLEqONGUErOTHqRACKrEErIPOD
qURBANsTLEqWOs HANDSpUSEpVALLEYqILLAGEpWALKt ENCLOSURErTERqEAPONrSTqHEATrITEqINDsEqOMANrRKqRAPrONG
pYELLOWdNADA AI LENGTH MARKiDIGIT EIGHToFIVEpOURoNINEoONEoSEVENpIXoTHREEpWOoZEROiLENGTH MARKkTTER A
qAqIqUpBAqHApCAqHApDAqDArHAqHApEqEpFApGAqHApHApIqIpJAqHApKAqHApLAqLArLApMApNArKAARA POLLUqGAqNAqYA
pOqOpPAqHApRAqRApSAqHAqSApTAqHAqTArHApUqUpVAqOCALIC LyLxRyRpYAiSIGN ANUSVARAoVAGRAHAnCANDRABINDU
nJIHVAMULIYAnNUKTAnSIDDHAMoPACING CANDRABINDUnUPADHMANIYAnVIRAMApSARGAiVOWEL SIGN AAuIuUtEuEtIuItO
uOtUuUtVOCALIC L%L$R%RcTAKANA DIGRAPH KOTOjITERATION MARKjLETTER ArRCHAIC EyWUyYEzIqBArErIrOrUqDArE
rIrOrUqEqGArErIrOrUqHArErIrOrUqIqKArErIrOrUqMArErIsNNAN NASALIZED TONE-1<2<3<4<5<7<8xTONE-2%3%4%5%7
%8rOrUqNrArErIrOrUqOqPArErIrOrUqRArErIrOrUqSArErIrMALL AwEwHAxExIxOxUwIwKAxExUwMUwNxUwOwRAxExIxOxU
wSIxUwTOxUwUwWAxExIxOwYAxOxUrOrUqTArErIrOrUqUqVArErIrOrUqWArErIrOqYArOrUqZArErIrOrUjMIDDLE DOT
jVOICED ITERATION MARKi-HIRAGANA DOUBLE HYPHENsPROLONGED SOUND MARKsSEMI-VOICED SOUND MARK
sVOICED SOUND MARKcYAH LI DIGIT EIGHTpFIVEqOURpNINEpONEpSEVENqIXpTHREEqWOpZEROjLETTER AqBAqCAqDAqGA
qHArTAqIqKArHAqLAqMAqNArGArYAqOErOqPArHAqRAqSArHAqTArHAqVAqWAqYAqZAjSIGN CWIoSHYAjTONE CALYA
t PLOPHUoPLOPHUjVOWEL EqEpOpUqEbELVIN SIGNcYdBOARDi AND MOUSEdCAP TENbHAROSHTHI DIGIT FOURrONE
rTHREEsWOlFRACTION ONE HALFlLETTER AsBAtHAsCAtHAsDAtDAuHAtHAsGAtHAsHAsJAsKAtHAtKAsLAsMAsNAtNAtYAsPA
tHAsRAsSAtHAtSAsTAtHAtTAuHAuTAvHAsVAtHAsYAsZAlNUMBER ONE HUNDREDwTHOUSANDsTENtWENTY
lPUNCTUATION CIRCLEyRESCENT BARxDANDAyOTzUBLE DANDAxLINESyOTUSxMANGALAMxSMALL CIRCLElSIGN ANUSVARA
qBAR ABOVEqCAUDAqDOT BELOWsUBLE RING BELOWqVISARGAlVIRAMAmOWEL LENGTH MARKrSIGN EwIwOwUwVOCALIC R
cITAN SMALL SCRIPT CHARACTER-18B00,1,2,3,4,5,6,7,8,9,A,B,C,D,E,F+10,1,2,3,4,5,6,7,8,9,A,B,C,D,E,F
+20,1,2,3,4,5,6,7,8,9,A,B,C,D,E,F+30,1,2,3,4,5,6,7,8,9,A,B,C,D,E,F+40,1,2,3,4,5,6,7,8,9,A,B,C,D,E,F
+50,1,2,3,4,5,6,7,8,9,A,B,C,D,E,F+60,1,2,3,4,5,6,7,8,9,A,B,C,D,E,F+70,1,2,3,4,5,6,7,8,9,A,B,C,D,E,F
+80,1,2,3,4,5,6,7,8,9,A,B,C,D,E,F+90,1,2,3,4,5,6,7,8,9,A,B,C,D,E,F+A0,1,2,3,4,5,6,7,8,9,A,B,C,D,E,F
+B0,1,2,3,4,5,6,7,8,9,A,B,C,D,E,F+C0,1,2,3,4,5,6,7,8,9,A,B,C,D,E,F+D0,1,2,3,4,5,6,7,8,9,A,B,C,D,E,F
+E0,1,2,3,4,5,6,7,8,9,A,B,C,D,E,F+F0,1,2,3,4,5,6,7,8,9,A,B,C,D,E,F*C00,1,2,3,4,5,6,7,8,9,A,B,C,D,E
,F+10,1,2,3,4,5,6,7,8,9,A,B,C,D,E,F+20,1,2,3,4,5,6,7,8,9,A,B,C,D,E,F+30,1,2,3,4,5,6,7,8,9,A,B,C,D,E
,F+40,1,2,3,4,5,6,7,8,9,A,B,C,D,E,F+50,1,2,3,4,5,6,7,8,9,A,B,C,D,E,F+60,1,2,3,4,5,6,7,8,9,A,B,C,D,E
,F+70,1,2,3,4,5,6,7,8,9,A,B,C,D,E,F+80,1,2,3,4,5,6,7,8,9,A,B,C,D,E,F+90,1,2,3,4,5,6,7,8,9,A,B,C,D,E
,F+A0,1,2,3,4,5,6,7,8,9,A,B,C,D,E,F+B0,1,2,3,4,5,6,7,8,9,A,B,C,D,E,F+C0,1,2,3,4,5,6,7,8,9,A,B,C,D,E
,F+D0,1,2,3,4,5uFILLERcMER CURRENCY SYMBOL RIELgDIGIT EIGHTmFIVEnOURmNINEmONEmSEVENnIXmTHREEnWO
mZEROgINDEPENDENT VOWEL LY!YyQAA!I!Q!UzEzI!IzOO TYPE ONE+TWOzU!K!U$VyRY!YgLETTER BAnCAoHApOoOnDAoO
nHAnKAoHApOoOnLAoOnMOnNGOoNOoOoYOnPHApOoOnQAnROnSAoHAoSOnTAoHApOoOoTHAqOnVOnYOgSIGN AHSDAmTTHACAN
mVAKRAHASANYAlBANTOCnRIYOOSANnTHAMASATmEYYALlCAMNUC PII KUUHmOENGlKAKABATmHANmOOMUUTlLEK TOO
lMUUSIKATOANlNIKAHITlPHNAEK MUANlREAHMUKmOBATlSAMYOK SANNYAlTOANDAKHIATmRIISAPlVIRIAMlYUUKALEAPINTU
hYMBOL BEI KOETrROCoUON KOETsROCnDAP KOETrROCq-BEI KOETvROCsUON KOETwROCrMUOY KOETwROCrPII KOETvROC
sRAM KOETwROCnLEK ATTAK BEIyUONxMUOYxPIIyRAM$-BEI&UON%MUOY%PIIxSONnMUOY KOETsROCnPATHAMASAToII KOET
rROCoRAM KOETsROCr-BEI KOETwROCtUON KOETxROCsMUOY KOETxROCsPII KOETwROCnTUTEYASATgVOWEL INHERENT AA
wQmSIGN AAsEsIsUrErIsEsIrOEsOrUsAsUrYsAsYcOJKI ABBREVIATION SIGNhDANDAiOUBLE DANDAoSECTION MARK
hLETTER ApApIpUoBApBApHAoCApHAoDApDAqDAqHApHAoEoGApGApHAoHAoIoJApJAoKApHAoLApLAoMAoNApGApNApYAoOoPA
pHAoRAoSAoTApHApTAqHAoUoVAoYAhSECTION MARKiIGN ANUSVARAmNUKTAmSHADDAnUKUNmVIRAMAhVOWEL SIGN AAtItU
sEsItIsOsUhWORD SEPARATORcUDAWADI DIGIT EIGHTqFIVErOURqNINEqONEqSEVENrIXqTHREErWOqZEROkLETTER AsAsI
sUrBAsBAsHArCAsHArDAsDAtDAtHAsHArErGAsGAsHArHArIsIrJAsHAsJArKAsHArLArMArNAsGAsNAsYArOrPAsHArRAsRA
rSAsHArTAsHAsTAtHArUsUrVArYAkSIGN ANUSVARApNUKTApVIRAMAkVOWEL SIGN AAwIwUvEvIwIvOvUwUbIMONOcP SIGN
cSSe MARKeING CAT FACE WITH CLOSED EYESiFACEm WITH CLOSED EYESsSMILING EYEScTEcWIFRUIT
bNEELING PERSONcOTbOALAcREAN STANDARD SYMBOLbRONOSaL B BAR SYMBOLbAB COATdELcCROSSE STICK AND BALL
cDDERdY BEETLEcNGUAGE TAGcO CANCELLATION MARKeDIGIT EIGHTkFIVElOURkNINEkONEkSEVENlIXkTHREElWOkZERO
eELLIPSISeHO MOhNOeKO LAeLETTER BOlCOlDOlFO FAYpONoSUNGoTAMlHO SUNGoTAMlKHMU GOqNYOnO SUNGpTAMmOlLO
n LINGpOOTlMOlNGOmOmYOlOlPALI BHAqCHAqDDAsHArHAqGHAqJHAqLLAqNNArYAqTTAsHAmHO SUNGpTAMmOlRO
lSANSKRIT SHAvSAmO SUNGoTAMlTHO SUNGpTAMmOlWOlYOeNIGGAHITAeSEMIVOWEL SIGN LOtNYOfIGN PALI VIRAMA
eTONE MAI CATAWAnEKnTHOoIeVOWEL SIGN AqAqIqMqYpEqIpIqIpMAI KANuONpOpUqUpYqYcRGE BLUE CIRCLElDIAMOND
lSQUAREhROWN CIRCLEmSQUAREgCIRCLEgDOWN TACKgGREEN CIRCLEmSQUAREgLEFT TRIANGLE OPERATOR
gONE DOT OVER TWO DOTS PUNCTUATIONkRING OVER TWO RINGS PUNCTUATIONhRANGE CIRCLEnDIAMONDnSQUARE
gPURPLE CIRCLEnSQUAREgRED CIRCLEkSQUAREgTRIPLE VERTICAL BAR OPERATOR
hWO DOTS OVER ONE DOT PUNCTUATIONkRINGS OVER ONE RING PUNCTUATIONgUP TACKgYELLOW CIRCLEnSQUARE
fR THANl OR EQUAL TOdI SIGNcST QUARTER MOONr SYMBOLsWITH FACEcTIN CAPITAL LETTER Aw WITH ACUTE
%BREVE+ AND ACUTE<DOT BELOW<GRAVE<HOOK ABOVE<TILDE%CARON&IRCUMFLEX< AND ACUTE^DOT BELOW^GRAVE
^HOOK ABOVE^TILDE%DIAERESIS; AND MACRON&OT ABOVE; AND MACRON*BELOW(UBLE GRAVE%GRAVE%HOOK ABOVE
%INVERTED BREVE%MACRON%OGONEK%RING ABOVE< AND ACUTE+BELOW%STROKE%TILDEwAwEx WITH ACUTE&MACRON
wFRICAN DwLPHAwNGLICANA WwOwUwVx WITH HORIZONTAL BARwYvBw WITH DOT ABOVE*BELOW%FLOURISH%HOOK
%LINE BELOW%STROKE%TOPBARwETAwROKEN LvCw WITH ACUTE%BAR%CARON&EDILLA. AND ACUTE&IRCUMFLEX%DOT ABOVE
%HOOK%PALATAL HOOK%STROKEwHIwLOSED INSULAR GwONwUATRILLO( WITH COMMAvDw WITH CARON&EDILLA
&IRCUMFLEX BELOW%DOT ABOVE*BELOW%HOOK%LINE BELOW%SHORT STROKE OVERLAY&MALL LETTER Z@ WITH CARON
&TROKE%TOPBARwZx WITH CARONvEw WITH ACUTE%BREVE%CARON&EDILLA. AND BREVE&IRCUMFLEX< AND ACUTE
^DOT BELOW^GRAVE^HOOK ABOVE^TILDE=BELOW%DIAERESIS&OT ABOVE*BELOW(UBLE GRAVE%GRAVE%HOOK ABOVE
%INVERTED BREVE%MACRON, AND ACUTE=GRAVE%OGONEK%STROKE%TILDE+ BELOWwGYPTOLOGICAL AIN:LEFwNGwSHwTxH
wZHy REVERSEDzWITH CARONvFw WITH DOT ABOVE%HOOK%STROKEvGw WITH ACUTE%BREVE%CARON&EDILLA&IRCUMFLEX
%DOT ABOVE%HOOK%MACRON%OBLIQUE STROKE%STROKEwAMMAwHAwLOTTAL A&I&STOP&UvHw WITH BREVE BELOW%CARON
&EDILLA&IRCUMFLEX%DESCENDER&IAERESIS&OT ABOVE*BELOW%HOOK%STROKEwALF HwENGwWAIRvIw WITH ACUTE%BREVE
%CARON&IRCUMFLEX%DIAERESIS; AND ACUTE&OT ABOVE*BELOW(UBLE GRAVE%GRAVE%HOOK ABOVE%INVERTED BREVE
%MACRON%OGONEK%STROKE%TILDE+ BELOWwNSULAR D&F&G&R&S&TwOTAwSvJw WITH CIRCUMFLEX&ROSSED-TAIL%STROKEvK
w WITH ACUTE%CARON&EDILLA%DESCENDER&IAGONAL STROKE&OT BELOW%HOOK%LINE BELOW%OBLIQUE STROKE%STROKE
, AND DIAGONAL STROKEvLw WITH ACUTE%BAR&ELT%CARON&EDILLA&IRCUMFLEX BELOW%DOT BELOW; AND MACRON
(UBLE BAR%HIGH STROKE%LINE BELOW%MIDDLE DOT.TILDE%SMALL LETTER J&TROKEwJvMw WITH ACUTE%DOT ABOVE
*BELOW%HOOKwIDDLE SCOTS S$-WELSH LL,VvNw WITH ACUTE%CARON&EDILLA&IRCUMFLEX BELOW%DESCENDER&OT ABOVE
*BELOW%GRAVE%LEFT HOOK&INE BELOW&ONG RIGHT LEG%OBLIQUE STROKE%SMALL LETTER J%TILDEwJvOw WITH ACUTE
%BREVE%CARON&IRCUMFLEX< AND ACUTE^DOT BELOW^GRAVE^HOOK ABOVE^TILDE%DIAERESIS; AND MACRON&OT ABOVE
; AND MACRON*BELOW(UBLE ACUTE.GRAVE%GRAVE%HOOK ABOVE(RN* AND ACUTE;DOT BELOW;GRAVE;HOOK ABOVE;TILDE
%INVERTED BREVE%LONG STROKE OVERLAY(OP%MACRON, AND ACUTE=GRAVE&IDDLE TILDE%OGONEK, AND MACRON
%STROKE, AND ACUTE%TILDE+ AND ACUTE<DIAERESIS<MACRONwIwLD POLISH OwMEGAwOwPEN E!OwUvPw WITH ACUTE
%DOT ABOVE%FLOURISH%HOOK%SQUIRREL TAIL&TROKE, THROUGH DESCENDERvQw WITH DIAGONAL STROKE
%STROKE THROUGH DESCENDERvRw ROTUNDAxWITH ACUTE%CARON&EDILLA%DOT ABOVE*BELOW; AND MACRON(UBLE GRAVE
%INVERTED BREVE%LINE BELOW%OBLIQUE STROKE%STROKE%TAILwEVERSED C WITH DOT(E(HALF H(OPEN EwUM ROTUNDA
vSw WITH ACUTE+ AND DOT ABOVE%CARON+ AND DOT ABOVE&EDILLA&IRCUMFLEX&OMMA BELOW%DOT ABOVE*BELOW
; AND DOT ABOVE%HOOK%OBLIQUE STROKE%SHORT STROKE OVERLAY&WASH TAILwALTILLOwCHWAxRIPT GwHARP S
wIGMOID SwMALL CAPITAL I$Q WITH HOOK TAILvTw WITH CARON&EDILLA&IRCUMFLEX BELOW&OMMA BELOW
%DIAGONAL STROKE&OT ABOVE*BELOW%HOOK%LINE BELOW%RETROFLEX HOOK%STROKEwHORN! WITH STROKE
< THROUGH DESCENDERwONE FIVE!SIX!TWOwRESILLOwURNED A&LPHA%H%INSULAR G%K%L%M%T%VwZvUw BARxWITH ACUTE
%BREVE%CARON&IRCUMFLEX< BELOW%DIAERESIS; AND ACUTE@CARON@GRAVE@MACRON<BELOW&OT BELOW(UBLE ACUTE
.GRAVE%GRAVE%HOOK ABOVE(RN* AND ACUTE;DOT BELOW;GRAVE;HOOK ABOVE;TILDE%INVERTED BREVE%MACRON
, AND DIAERESIS%OGONEK%RING ABOVE%STROKE%TILDE+ AND ACUTE,BELOWwPSILONvVw WITH DIAGONAL STROKE
&OT BELOW%HOOK%TILDEwENDwISIGOTHIC ZwOLAPUK AE&OE&UEwYvWw WITH ACUTE%CIRCUMFLEX%DIAERESIS&OT ABOVE
*BELOW%GRAVE%HOOKwYNNvXw WITH DIAERESIS&OT ABOVEvYw WITH ACUTE%CIRCUMFLEX%DIAERESIS&OT ABOVE*BELOW
%GRAVE%HOOK* ABOVE%LOOP%MACRON%STROKE%TILDEwOGHvZw WITH ACUTE%CARON&IRCUMFLEX%DESCENDER&OT ABOVE
*BELOW%HOOK%LINE BELOW%PALATAL HOOK%STROKE&WASH TAILpIGATURE IJxOEhROSSgEPIGRAPHIC LETTER ARCHAIC M
yI LONGAzNVERTED MyREVERSED F+PySIDEWAYS IgLETTER AINoLVEOLAR CLICKnBIDENTAL PERCUSSIVE
pLABIAL CLICKwPERCUSSIVEnDENTAL CLICKnGLOTTAL STOPz WITH STROKEnINVERTED GLOTTAL STOP, WITH CURL
>STROKEnLATERAL CLICKnPHARYNGEAL VOICED FRICATIVEnRETROFLEX CLICK% WITH RETROFLEX HOOK
pVERSED ESH LOOPwGLOTTAL STOP WITH STROKEnSINOLOGICAL DOToMALL CAPITAL A%E$B%ARRED B$C$D$E%TH%ZH$F
$G% WITH HOOK$H$I%NVERTED R$J$K$L% WITH BELT,STROKE$M$N$O%E%PEN O%U$P$Q$R% WITH RIGHT LEG%EVERSED N
:R%UM$S$T%URNED E,G,K,M,R$U$V$W$Y$ZoTRETCHED Cy WITH CURLnTWO WITH STROKEnVOICED LARYNGEAL SPIRANT
nWYNNnYRgSMALL CAPITAL LETTER I WITH STROKE$U WITH STROKEmLETTER Au REVERSED-SCHWAvWITH ACUTE!BREVE
) AND ACUTE:DOT BELOW:GRAVE:HOOK ABOVE:TILDE!CARON$IRCUMFLEX: AND ACUTE?DOT BELOW?GRAVE?HOOK ABOVE
?TILDE!DIAERESIS. AND MACRON$OT ABOVE. AND MACRON(BELOW%UBLE GRAVE!GRAVE!HOOK ABOVE!INVERTED BREVE
!MACRON!OGONEK!RETROFLEX HOOK$IGHT HALF RING%NG ABOVE: AND ACUTE)BELOW!STROKE!TILDEuAuEv WITH ACUTE
$MACRONuLPHAy WITH RETROFLEX HOOKuNGLICANA WuOuUuVv WITH HORIZONTAL BARuYtBu WITH DOT ABOVE(BELOW
!FLOURISH!HOOK!LINE BELOW!MIDDLE TILDE!PALATAL HOOK!STROKE!TOPBARuARRED ALPHA!E!OvSELINE ESHuETA
uLACKLETTER E)O* WITH STROKEuOTTOM HALF OuROKEN LtCu WITH ACUTE!BAR!CARON$EDILLA+ AND ACUTE
$IRCUMFLEX$URL!DOT ABOVE!HOOK!PALATAL HOOK!RETROFLEX HOOK!STROKEuHIw WITH LOW LEFT SERIF*RIGHT RING
uLOSED INSULAR G!OMEGA$PEN E!REVERSED OPEN EuONuUATRILLO% WITH COMMAtDu WITH CARON$EDILLA
$IRCUMFLEX BELOW$URL!DOT ABOVE(BELOW!HOOK( AND TAIL!LINE BELOW!MIDDLE TILDE!PALATAL HOOK
!SHORT STROKE OVERLAY$TROKE!TAIL$OPBARuB DIGRAPHuELTAvZH DIGRAPH) WITH PALATAL HOOK;RETROFLEX HOOK
uOTLESS I$J% WITH STROKE> AND HOOKvUBLE R$ WITH CROSSED-TAIL!THORN!WYNNuUMuZv DIGRAPH& WITH CURL
.RETROFLEX HOOKwWITH CARONtEu WITH ACUTE!BREVE!CARON$EDILLA+ AND BREVE$IRCUMFLEX: AND ACUTE
?DOT BELOW?GRAVE?HOOK ABOVE?TILDE;BELOW!DIAERESIS$OT ABOVE(BELOW%UBLE GRAVE!FLOURISH!GRAVE
!HOOK ABOVE!INVERTED BREVE!MACRON* AND ACUTE;GRAVE!NOTCH!OGONEK!RETROFLEX HOOK!STROKE!TILDE) BELOW
uGYPTOLOGICAL AIN,LEFuNGw WITH CROSSED-TAIL%PALATAL HOOKuSHw WITH CURL%DOUBLE BAR< AND CURL
%PALATAL HOOK%RETROFLEX HOOKuTvHuZHw REVERSEDxWITH CARON&URL%PALATAL HOOK%RETROFLEX HOOK%TAILtF
u WITH DOT ABOVE!HOOK!MIDDLE TILDE!PALATAL HOOK!STROKEuENG DIGRAPH) WITH TRILLtGu WITH ACUTE!BREVE
!CARON$EDILLA$IRCUMFLEX!DOT ABOVE!HOOK!MACRON!OBLIQUE STROKE!PALATAL HOOK!STROKEuAMMAuHAuLOTTAL A$I
$STOP$UtHu WITH BREVE BELOW!CARON$EDILLA$IRCUMFLEX!DESCENDER$IAERESIS$OT ABOVE(BELOW!HOOK
!LINE BELOW!PALATAL HOOK!STROKEuALF HuENGx WITH HOOKuVtIu WITH ACUTE!BREVE!CARON$IRCUMFLEX
!DIAERESIS. AND ACUTE$OT BELOW%UBLE GRAVE!GRAVE!HOOK ABOVE!INVERTED BREVE!MACRON!OGONEK
!RETROFLEX HOOK!STROKE* AND RETROFLEX HOOK!TILDE) BELOWuNSULAR D$F$G$R$S$TvVERTED ALPHA%OEuOTA
x WITH STROKEwIFIED EuStJu WITH CARON$IRCUMFLEX$ROSSED-TAIL!STROKEtKu WITH ACUTE!CARON$EDILLA
!DESCENDER$IAGONAL STROKE$OT BELOW!HOOK!LINE BELOW!OBLIQUE STROKE!PALATAL HOOK!STROKE
* AND DIAGONAL STROKEuRAtLu WITH ACUTE!BAR$ELT( AND PALATAL HOOK!CARON$EDILLA$IRCUMFLEX BELOW$URL
!DOT BELOW. AND MACRON%UBLE BAR+MIDDLE TILDE!FISHHOOK!HIGH STROKE!INVERTED LAZY S!LINE BELOW
!MIDDLE DOT+RING+TILDE!PALATAL HOOK!RETROFLEX HOOK> AND BELT!STROKEuAMBDA WITH STROKEuENIS FvZH
x WITH RETROFLEX HOOKuJuONG Sz WITH DIAGONAL STROKE*OT ABOVE)HIGH STROKEuS DIGRAPHuUMuZ DIGRAPHtM
u WITH ACUTE!CROSSED-TAIL!DOT ABOVE(BELOW!HOOK!MIDDLE TILDE!PALATAL HOOKuIDDLE SCOTS Sz-WELSH LL*V
uUMtNu PRECEDED BY APOSTROPHEvWITH ACUTE!CARON$EDILLA$IRCUMFLEX BELOW$ROSSED-TAIL$URL!DESCENDER
$OT ABOVE(BELOW!GRAVE!LEFT HOOK$INE BELOW$ONG RIGHT LEG!MIDDLE TILDE!OBLIQUE STROKE!PALATAL HOOK
!RETROFLEX HOOK!TILDEuJuUMtOu WITH ACUTE!BREVE!CARON$IRCUMFLEX: AND ACUTE?DOT BELOW?GRAVE
?HOOK ABOVE?TILDE!DIAERESIS. AND MACRON$OT ABOVE. AND MACRON(BELOW%UBLE ACUTE+GRAVE!GRAVE
!HOOK ABOVE%RN( AND ACUTE.DOT BELOW.GRAVE.HOOK ABOVE.TILDE!INVERTED BREVE!LONG STROKE OVERLAY%OP
%W RING INSIDE!MACRON* AND ACUTE;GRAVE!OGONEK* AND MACRON!RETROFLEX HOOK!STROKE* AND ACUTE!TILDE
) AND ACUTE:DIAERESIS:MACRONuIuLD POLISH OuMEGAuOuPEN Ez WITH RETROFLEX HOOKyOz WITH RETROFLEX HOOK
)STROKEzEuUtPu WITH ACUTE!DOT ABOVE!FLOURISH!HOOK!MIDDLE TILDE!PALATAL HOOK!SQUIRREL TAIL$TROKE
* THROUGH DESCENDERuHItQu WITH DIAGONAL STROKE!HOOK( TAIL!STROKE THROUGH DESCENDERuP DIGRAPHtR
u ROTUNDAvWITH ACUTE!CARON$EDILLA$ROSSED-TAIL!DOT ABOVE(BELOW. AND MACRON%UBLE GRAVE!FISHHOOK
, AND MIDDLE TILDE=PALATAL HOOK!INVERTED BREVE!LINE BELOW$ONG LEG!MIDDLE TILDE!OBLIQUE STROKE
!PALATAL HOOK!STROKE!TAILzOUT HANDLEuAMS HORNuEVERSED C& WITH DOT%E&NG%HALF H%K%OPEN E, WITH HOOK
>RETROFLEX HOOK%R WITH FISHHOOK%SCRIPT GuUMw ROTUNDAtSu WITH ACUTE) AND DOT ABOVE!CARON
) AND DOT ABOVE$EDILLA$IRCUMFLEX$OMMA BELOW$URL!DOT ABOVE(BELOW. AND DOT ABOVE!HOOK!MIDDLE TILDE
!OBLIQUE STROKE!PALATAL HOOK!SHORT STROKE OVERLAY$WASH TAILuAKHA YATvLTILLOuCHWAy WITH HOOK
(RETROFLEX HOOKvRIPT G$ WITH CROSSED-TAIL!R$ WITH RINGuHARP SuIDEWAYS DIAERESIZED U%O& WITH STROKE
&PEN O%TURNED M%UvGMOID SuQUAT REVERSED ESHuTIRRUP RtTu WITH CARON$EDILLA$IRCUMFLEX BELOW
$OMMA BELOW$URL!DIAERESIS&GONAL STROKE$OT ABOVE(BELOW!HOOK( AND RETROFLEX HOOK!LINE BELOW
!MIDDLE TILDE!PALATAL HOOK!RETROFLEX HOOK!STROKEuAILLESS PHIuC DIGRAPH WITH CURLuESH DIGRAPH
) WITH PALATAL HOOK;RETROFLEX HOOKuH WITH STRIKETHROUGHvORNy WITH STROKE: THROUGH DESCENDER
uONE FIVEySIXyTWOvP HALF OuRESILLOuS DIGRAPH& WITH RETROFLEX HOOKuUMvRNED A$E$LPHA!DELTA!E!G!H
$ WITH FISHHOOK? AND TAIL!I$NSULAR G!K!L!M$ WITH LONG LEG!O OPEN-O, WITH STROKE$E
% WITH HORIZONTAL STROKE,STROKE$PEN E!R$ WITH HOOK+LONG LEG? AND RETROFLEX HOOK+MIDDLE TILDE
+PALATAL HOOK+TAIL!T$ WITH CURL!UI!V!W!Y$ WITH BELTuZtUu BARy WITH SHORT RIGHT LEGvWITH ACUTE!BREVE
!CARON$IRCUMFLEX: BELOW!DIAERESIS. AND ACUTE>CARON>GRAVE>MACRON:BELOW$OT BELOW%UBLE ACUTE+GRAVE
!GRAVE!HOOK ABOVE%RN( AND ACUTE.DOT BELOW.GRAVE.HOOK ABOVE.TILDE!INVERTED BREVE!LEFT HOOK!MACRON
* AND DIAERESIS!OGONEK!RETROFLEX HOOK$ING ABOVE!SHORT RIGHT LEG$TROKE!TILDE) AND ACUTE*BELOWuEuIuM
uOuPSILON! WITH STROKEtVu WITH CURL!DIAGONAL STROKE$OT BELOW!HOOK!PALATAL HOOK!RIGHT HOOK!TILDEuEND
uISIGOTHIC ZuOLAPUK AE$OE$UEuYtWu WITH ACUTE!CIRCUMFLEX!DIAERESIS$OT ABOVE(BELOW!GRAVE!HOOK
!RING ABOVEtXu WITH DIAERESIS$OT ABOVE!LONG LEFT LEG= AND LOW RIGHT RING>WITH SERIF%W RIGHT RING
!PALATAL HOOKtYu WITH ACUTE!CIRCUMFLEX!DIAERESIS$OT ABOVE(BELOW!GRAVE!HOOK( ABOVE!LOOP!MACRON
!RING ABOVE!SHORT RIGHT LEG$TROKE!TILDEuOGHtZu WITH ACUTE!CARON$IRCUMFLEX$URL!DESCENDER$OT ABOVE
(BELOW!HOOK!LINE BELOW!MIDDLE TILDE!PALATAL HOOK!RETROFLEX HOOK!STROKE$WASH TAILnIGATURE FFxIxLwIwL
vIJvLONG S TvOEvSThUBSCRIPT SMALL LETTER A&E&H&I&J&K&L&M&N&O&P&R&S(CHWA&T&U&V&X
bEAF FLUTTERING IN WINDeY GREENcDGERcFT AND LOWER AND RIGHT TRIANGULAR THREE QUARTERS BLOCK
pONE EIGHTH BLOCKjRIGHT DOUBLE TURNSTILEpTACKqRIANGULAR HALF BLOCK
jUPPER AND RIGHT TRIANGULAR THREE QUARTERS BLOCKpONE EIGHTH BLOCKhGER BUBBLEiLE BRACKETs WITH DOT
gRC LESS-THAN BRACKEThROW WITH CIRCLED PLUSqSMALL CIRCLEfBARB DOWN RIGHT BARB DOWN HARPOON
!UP HARPOONkUP RIGHT BARB DOWN HARPOONyUP HARPOONgLACK LENTICULAR BRACKETlTORTOISE SHELL BRACKET
fCEILINGgLOSED ENTRYgORNER BRACKETgURLY BRACKETs LOWER HOOKtMIDDLE PIECEtUPPER HOOK
fDOTTED SUBSTITUTION BRACKEThUBLE ANGLE BRACKETmPARENTHESISmQUOTATION MARKmWIGGLY FENCEfFISH TAIL
hVE EIGHTHS BLOCKgLOORfHALF BLACK CIRCLEqSTARmOCKkCIRCLEq WITH DOTwFOUR DOTSwTHREE DOTSxWO DOTS
kFOLDERkINVERSE MEDIUM SHADE AND RIGHT HALF BLOCKkMEDIUM SHADEkRUNNING MANhND TELEPHONE RECEIVER
fLOW PARAPHRASE BRACKETgUGGAGEfMULTIMAPfNORMAL FACTOR SEMIDIRECT PRODUCTfONE EIGHTH BLOCK
jQUARTER BLOCKgUTER JOINfPARENTHESISq EXTENSIONrLOWER HOOKrUPPER HOOKfRAISED OMISSION BRACKET
gIGHT ARROWq THROUGH SMALL CIRCLErWITH DOUBLE VERTICAL STROKEwSTROKEwVERTICAL STROKElBLACK ARROW
lDOUBLE ARROWx WITH STROKE&VERTICAL STROKElOPEN-HEADED ARROWlSANS-SERIF ARROWlTRIANGLE-HEADED ARROW
lWAVE ARROWmHITE ARROWfS-SHAPED BAG DELIMITERgEMIDIRECT PRODUCThVEN EIGHTHS BLOCKgIDEWAYS U BRACKET
hNGLE QUOTATION MARKgPEECH BUBBLEgQUARE BRACKETt EXTENSIONuLOWER CORNERuUPPER CORNER
uWITH DOUBLE STROKEzQUILLzSTROKEzTICK IN BOTTOM CORNER+TOP CORNERzUNDERBARgUBSTITUTION BRACKETfTACK
gHIRD WHITE RIGHT POINTING INDEXhOUGHT BUBBLEhREE EIGHTHS BLOCKlQUARTERS BLOCK
gORTOISE SHELL BRACKETgRANSPOSITION BRACKEThIANGLE BESIDE VERTICAL BARlULAR ONE QUARTER BLOCK
fVERTICAL BAR WITH QUILLpOX LINEfWHITE CORNER BRACKETmURLY BRACKETlLENTICULAR BRACKETlPARENTHESIS
lSQUARE BRACKETlTORTOISE SHELL BRACKETgIGGLY FENCEgRITING HANDe-FACING ARMENIAN ETERNITY SIGNmFIST
mSVASTI SIGNx WITH DOTSfHANDED INTERLACED PENTAGRAMfPOINTING ANGLE BRACKEToCURVED ANGLE BRACKET
oDOUBLE ANGLE QUOTATION MARKoMAGNIFYING GLASSfSHADED WHITE RIGHTWARDS ARROW
gIDE ARC ANTICLOCKWISE ARROWfTO-RIGHT EMBEDDINGoISOLATEoMARKoOVERRIDEeWARDS ARROW
p ABOVE ALMOST EQUAL TOwREVERSE ALMOST EQUAL TO(TILDE OPERATORwSHORT RIGHTWARDS ARROW
wTILDE OPERATORrND UPPER AND LOWER ONE EIGHTH BLOCKqFROM BARy TO BLACK DIAMOND
qOVER RIGHTWARDS ARROWqTHROUGH LESS-THANySUBSETyXrO BARw OVER RIGHTWARDS ARROW TO BARuLACK DIAMOND
qWITH DOTTED STEMxUBLE VERTICAL STROKEvEQUILATERAL ARROWHEADvHOOKvLARGE TRIANGLE ARROWHEADwOOP
vMEDIUM TRIANGLE ARROWHEADvNOTCHED TAILvPLUS BELOWvSMALL EQUILATERAL ARROWHEAD$TRIANGLE ARROWHEAD
wTROKEvTAILz WITH DOUBLE VERTICAL STROKE)VERTICAL STROKEwIP DOWNWARDSzUPWARDSvVERTICAL STROKEp-TAIL
kBACK-TILTED SHADOWED WHITE ARROWlLACK ARROWqCIRCLED WHITE ARROWlOTTOM-SHADED WHITE ARROW
kCOMPRESSED ARROWkDASHED ARROWlOUBLE ARROWw FROM BARxWITH STROKE%VERTICAL STROKEw-TAILrDASH ARROW
kFINGER-POST ARROWlRONT-TILTED SHADOWED WHITE ARROWkHANDmRPOON OVER RIGHTWARDS HARPOON
sWITH BARB DOWN ABOVE RIGHTWARDS HARPOON WITH BARB DOWN+BELOW LONG DASH+FROM BAR+TO BAR*WARDS
%UP ABOVE LEFTWARDS HARPOON WITH BARB DOWN<ONG DASH;RIGHTWARDS HARPOON WITH BARB UP)FROM BAR)TO BAR
(WARDSlEAVY ARROWqCOMPRESSED ARROWkLEFT-SHADED WHITE ARROWkOPEN-HEADED ARROWkPAIRED ARROWS
kQUADRUPLE ARROWkRIGHT-SHADED WHITE ARROWlOCKETkSANS-SERIF ARROWlQUARED ARROWnIGGLE ARROW
kTOP SHADED WHITE ARROWlRIANGLE ARROWHEADs-HEADED ARROW) OVER RIGHTWARDS TRIANGLE-HEADED ARROW
*TO BAR*WITH BOLD SHAFT;DOUBLE HORIZONTAL STROKE_VERTICAL STROKE;HEAVY SHAFT;LONG TIP DOWNWARDS
~UPWARDS;MEDIUM SHAFT;NARROW SHAFT;VERY HEAVY SHAFT!DASHED ARROW!PAIRED ARROWSnPLE ARROWrDASH ARROW
lWO HEADED ARROWn-HEADED ARROW FROM BAR$WITH DOUBLE VERTICAL STROKE*TAIL
: WITH DOUBLE VERTICAL STROKE@VERTICAL STROKE+RIANGLE ARROWHEADS*VERTICAL STROKEvTRIPLE DASH ARROW
kWAVE ARROWlHITE ARROWv WITHIN TRIANGLE ARROWHEADcGcMONcOdPARDcPCHA CONSONANT SIGN KxANGwLwMwN
xYIN-DOwPwRwThDIGIT EIGHTnFIVEoOURnNINEnONEnSEVENoIXnTHREEoWOnZEROhLETTER AoBApLAoCApHAoDApDApZAoFA
pLAoGApLAoHApLAoJAoKApHApLAoLAoMApLAoNApGApYAoPApHApLAoRAoSApHAoTApHApSAqHApTAqHAoVAoWAoYA
hPUNCTUATION CER-WAtNYET THYOOM TA-ROLtTA-ROLuSHOOKz CER-WAhSIGN NUKTAmRANiUBJOINED LETTER RAyYA
hVOWEL SIGN AAsEsIsOtOsUtUcSS-THAN ABOVE DOUBLE-LINE EQUAL ABOVE GREATER-THAN
qGREATER-THAN ABOVE DOUBLE-LINE EQUALqLEFTWARDS ARROWqSIMILAR ABOVE GREATER-THANyOR EQUAL
rLANTED EQUAL ABOVE GREATER-THAN ABOVE SLANTED EQUALlND NOT APPROXIMATEoSINGLE-LINE NOT EQUAL TO
kBUT NOT EQUAL TOvIVALENT TOkCLOSED BY CURVEz ABOVE SLANTED EQUALkEQUAL TO OR GREATER-THAN
kOR APPROXIMATEnEQUAL TOqIVALENT TOnGREATER-THANnSLANTED EQUAL TO& WITH DOT ABOVE_ RIGHT=INSIDE
lVER EQUAL TOkSIGNkWITH CIRCLE INSIDEpDOTpQUESTION MARK ABOVEcVEL SLIDERbFbIBRA
cGATURE OPEN ET ORNAMENTdHT CHECK MARKgEIGHT SPOKED ASTERISKgFIVE POINTED BLACK STAR
lSPOKED ASTERISKhOUR POINTED BLACK CUSPzSTARgGREEK CROSSgLEFT TORTOISE SHELL BRACKET ORNAMENTgRAIL
hIGHT TORTOISE SHELL BRACKET ORNAMENTgSALTIREhHADEhIX SPOKED ASTERISKgTHREE POINTED BLACK STAR
hWELVE POINTED BLACK STARgVERTICAL BARgWHITE SQUAREfNINGj MOODo BUBBLEcMBU DIGIT EIGHTmFIVEnOUR
mNINEmONEmSEVENnIXmTHREEnWOmZEROgEXCLAMATION MARKgLETTER BAoHAnCAoHAnDAoHAnGAoHAoYANnHAnJAoHAnKAoHA
nLAnMAnNAoGAnPAoHAnRAnSAoHAoSAnTAoHAoRAnWAnYApNgQUESTION MARKgSIGN KEMPHRENGlLOOlMUKPHRENGlSA-I
hMALL LETTER ANUSVARAtKAtLAtMAtNAuGAtPAtRAtTAhUBJOINED LETTER RAxWAxYAgVOWEL SIGN AsIsUrEsErIrOsOrU
l-CARRIER LETTERdITED LIABILITY SIGNcNE FEEDfINTEGRATION NOT INCLUDING THE POLE
rWITH RECTANGULAR PATH AROUND POLEwSEMICIRCULAR PATH AROUND POLEfSEPARATORfTABULATIONp SET
eAR A SIGN A028Bp100-102q20Bq31Cp301r2r3r4r5r6r7r8r9AsBsCq10r1r2r3AsBsCr4r5r6r7r8r9q20r1r2r3r4r5r6
r7r8r9q30r1r2r3r4r5r6r7r8r9q40r1r2r3r4r5r6r7r8r9q50r1r2r3r4r5r6r7r8r9q60r1r2r3r4r5r6r7r8r9q70r1
p400-VASr1-VASr2-VASr3-VASr4-VASr5-VASr6-VASr7-VASr8-VASr9-VASq10-VASr1-VASr2-VASr3-VASr4-VASr5-VAS
r6-VASr7-VASr8-VASp501r2r3r4r5r6r8r9q10r1r2r3r5r6q20r1r3r4r5r6r7r8r9q30r1r2r4r5r6r7r8r9q40r1r2r5r7
r8r9q50r1r2r3r4r5r6r7r9q63r4r5r6r8r9q70r1r2r3r4r5r6r7r8r9q80r1r2r3r4r5r6r7r8r9q91r2r4r5r6r8p600r1r2
r3r4r6r8r9q10r1r2r3r4r5r6r7r8r9q20r1r2r3r4r6r7r8r9q34r7r8q40r2r3r4r5r6r8r9q51r2r3r4r5r6r7r8r9q60r1
r2r3r4p701 Ar2 Br3 Dr4 Er5 Fr6 Hr7 Jr8 Kr9 Ls-2 L2t3 L3t4 L4t6 L6q10 Wr1 Xr2 Yr3 OMEGAr4 ABBr5 BB
r7 DDq26 EYYYq32 JEp800r1r2r3r4r5r6r7pB001s2s3s4s5s6s7s8s9r10s1s3s6s7r20s1tFtMs2tFtMs3tMs4s6s7s8s9
r30s1s4s7s8s9r40s1s4s5s6s7s8s9r50s1s3s4s5s6s7s8s9r60s1s5s6s7s9r70s3s4s6s7s8s9r80s1s2s5s6s7q118r20s2
s3r31AtBr64r71r80s8r91hB IDEOGRAM B100 MANv2 WOMANv4 DEERv5 EQUIDwF MAREwM STALLIONv6F EWEwM RAM
v7F SHE-GOATwM HE-GOATv8F SOWwM BOARv9F COWwM BULLu20 WHEATv1 BARLEYv2 OLIVEv3 SPICEv5 CYPERUS
u30 OILv1 WINEv2u40 BRONZEv1 GOLDv2v5 WOOLv6u50v1 HORNv2v3v4v7v8v9 CLOTHu60v1v2 GARMENTv3 ARMOURv4
v5v6v7v8v9u70v1v2v3 MONTHv4v6 TREEv7v8v9u80v1v2v3v4v5v9u90v1 HELMETt220 FOOTSTOOLv5 BATHTUB
u30 SPEARv1 ARROWv2v3 SWORDv4v6u40 WHEELED CHARIOTv1 CHARIOTv2 CHARIOT FRAMEv3 WHEELv5v6v8v9u51v2v3
v4 DARTv5v6v7v8v9sVESSEL B155!200%1%2%3%4%5%6%7%8%9$10%1%2%3%4%5%6%7%8%9$21%2%6%7%8%9$50!305
jMONOGRAM B127 KAPOv8 KANAKOu33 AREPAv5 MERIu56 TURO2t247 DIPTEjSYLLABLE B001 DAv2 ROv3 PAv4 TE
v5 TOv6 NAv7 DIv8 Av9 SEu10 Uv1 POv2 SOv3 MEv4 DOv5 MOv6 QAv7 ZAu20 ZOv1 QIv3 MUv4 NEv5 A2v6 RU
v7 REv8 Iv9 PU2u30 NIv1 SAv2 QOv3 RA3v6 JOv7 TIv8 Ev9 PIu40 WIv1 SIv2 WOv3 A3v4 KEv5 DEv6 JEv8 NWA
u50 PUv1 DUv2 NOv3 RIv4 WAv5 NUv7 JAv8 SUv9 TAu60 RAv1 Ov2 PTEv5 JUv6 TA2v7 KIv8 RO2v9 TUu70 KO
v1 DWEv2 PEv3 MIv4 ZEv5 WEv6 RA2v7 KAv8 QEu80 MAv1 KUv5 AUv7 TWEu90 DWOv1 TWOlMBOL B018t9s22s34s47
t9s56s63t4s79s82t3t6t9dK SYMBOLeED PAPERCLIPScON FACEcPSeTICKcRA SIGNcSU LETTER AnEmBAmCAnHAmDAnZA
mEnUmFAmGAnHAmHAnHAmImJAmKAnHAmLAmMAmNAnGAmOnEmPAnHAmSAnHAmTAnHAnONE MYA BOvCYAvJEUvNAvTIrNA POnSA
oHAmUnEnHmWAmXAmYAnHAmZAnHAfPUNCTUATION COMMArFULL STOPcVRE TOURNOIS SIGNcZARDbLAMAbOBSTERcCK
e WITH INK PENeING-SHIFT ONEoZEROcGICAL ANDl WITH DOT ABOVEtUBLE OVERBARyUNDERBARrHORIZONTAL DASH
rMIDDLE STEMrUNDERBARiORk OVERLAPPING LOGICAL ANDlWITH DOT ABOVEsUBLE OVERBARxUNDERBAR
qHORIZONTAL DASHqMIDDLE STEMcLLIPOPcNG DASH FROM LEFT MEMBER OF DOUBLE VERTICALgIVISIONgRUM
fLEFT RIGHT ARROWqDOUBLE ARROWkTACKjWARDS ARROWu FROM BARpDOUBLE ARROW$ FROM BARpSQUIGGLE ARROW
fRIGHT TACKkWARDS ARROWv FROM BARqDOUBLE ARROW% FROM BARqSQUIGGLE ARROWcTION BOTTLEdUS
cUDLY CRYING FACEcVE HOTELfLETTERcW ASTERISKeBATTERYfRIGHTNESS SYMBOLeDOUBLE PRIME QUOTATION MARK
eKAVYKAk WITH DOTeLINEdER BLADE SCISSORSgFIVE EIGHTHS BLOCKgHALF BLOCKlCIRCLElINVERSE WHITE CIRCLE
lMEDIUM SHADEgLEFT BALLPOINT PENmLOCK DIAGONAL LOWER MIDDLE LEFT TO LOWER CENTRE~ LOWER RIGHT
!UPPER CENTRE TO LOWER MIDDLE RIGHT~R RIGHT@UPPER MIDDLE RIGHT*LEFT TO LOWER CENTRE~MIDDLE RIGHT
>UPPER MIDDLE RIGHT*MIDDLE LEFT TO LOWER CENTRE~ LOWER MIDDLE RIGHT~ LOWER RIGHTlCRAYON
lFOUNTAIN PENlPAINTBRUSHmENCILlQUADRANT CIRCULAR ARClSEMICIRCULAR ANTICLOCKWISE ARROWlTRIANGLE
rULAR MEDIUM SHADEgONE EIGHTH BLOCKkQUARTER BLOCK
gRIGHT BLOCK DIAGONAL LOWER CENTRE TO LOWER MIDDLE RIGHT^UPPER MIDDLE RIGHT~ER RIGHT
+LEFT TO LOWER MIDDLE RIGHT?UPPER CENTRE~ MIDDLE RIGHT+MIDDLE LEFT TO UPPER CENTRE
~O UPPER MIDDLE RIGHT~O UPPER RIGHT$UPPER MIDDLE LEFT TO UPPER CENTRE~O UPPER RIGHTmCORNER WITH DOT
mDROP-SHADOWED WHITE SQUAREmPENCILmQUADRANT CIRCULAR ARCmSEMICIRCULAR CLOCKWISE ARROW
nHADOWED WHITE CIRCLE$SQUAREmTRIANGLEsULAR MEDIUM SHADEgSEVEN EIGHTHS BLOCKgTHREE EIGHTHS BLOCK
mQUARTERS BLOCKhRIANGULAR ONE QUARTER BLOCKcZENGEh DIVIDED BY HORIZONTAL RULEbREcIcMcObUGGAGEcNGS
bYCIAN LETTER ApNoBpHoDoEpNoGoHoIoJoKpKoLoMpMoNpNoPoQoRoSoTpHpToUoWoXoZcDIAN LETTER ApNoBoCoDoEpNoF
oGoIoKoLpYoMoNpNoOoQoRoSpSoTpToUoVoYhTRIANGULAR MARKcING FACEaMACRONcGEdIC WANDdNET
cHAJANI ABBREVIATION SIGNjLETTER AqBArHAqCArHAqDArDAsHArHAqEqGArHAqHAqIqJArHAqKArHAqLAqMAqNArNArYA
qOqPArHAqRArRAqSAqTArHArTAsHAqUqVAkIGATURE SHRIjSECTION MARKkIGN NUKTAdJONG TILE AUTUMNnBACKpMBOO
nCHRYSANTHEMUMnEAST WINDoIGHT OF BAMBOOSwCHARACTERSxIRCLESnFIVE OF BAMBOOSvCHARACTERSwIRCLES
oOUR OF BAMBOOSvCHARACTERSwIRCLESnGREEN DRAGONnJOKERnNINE OF BAMBOOSvCHARACTERSwIRCLESoORTH WIND
nONE OF BAMBOOSuCHARACTERSvIRCLESoRCHIDnPLUMnRED DRAGONnSEVEN OF BAMBOOSwCHARACTERSxIRCLES
oIX OF BAMBOOSuCHARACTERSvIRCLESoOUTH WINDoPRINGoUMMERnTHREE OF BAMBOOSwCHARACTERSxIRCLES
oWO OF BAMBOOSuCHARACTERSvIRCLESnWEST WINDoHITE DRAGONoINTERcKASAR ANGKAiEND OF SECTIONiLETTER ApBA
pCApDApGApJApKApLApMApNAqGAqYApPApRApSApTApVApYAiPASSIMBANGiVOWEL SIGN EtItOtU
cLAYALAM AU LENGTH MARKkDATE MARKlIGIT EIGHTqFIVErOURqNINEqONEqSEVENrIXqTHREErWOqZERO
kFRACTION ONE EIGHTHxFIFTHyORTIETHxHALFxONE-HUNDRED-AND-SIXTIETHxQUARTERxSIXTEENTHxTENTHyWENTIETH
tTHREE EIGHTIETHSzQUARTERSzSIXTEENTHSzTWENTIETHSkLETTER AsAsIsRCHAIC IIsUrBAsHArCAsHAtILLU KyLzL!L
yMyNzNyRRyYrDAsDAtHAsHAsOT REPHrEsErGAsHArHArIsIrJAsHArKAsHArLAsLAtLArMArNAsGAsNAtNAsYArOsOrPAsHA
rRAsRArSAsHAsSArTAsHAsTAtHAtTArUsUrVAsEDIC ANUSVARAsOCALIC L!LzR!RrYAkNUMBER ONE HUNDREDvTHOUSAND
rTENkSIGN ANUSVARAqVAGRAHApCANDRABINDUqIRCULAR VIRAMAqOMBINING ANUSVARA ABOVEpPARA
pVERTICAL BAR VIRAMAqIRAMArSARGAkVOWEL SIGN AAwIwUvEwEvIwIvOwOvUwUvVOCALIC L(L&R(R
dE AND FEMALE SIGNfSIGNfWITH STROKE AND MALE AND FEMALE SIGNrSIGNdTESE CROSScMMOTHcN
d AND WOMAN HOLDING HANDSeDANCINGeIN BUSINESS SUIT LEVITATINGhTUXEDOeWITH GUA PI MAOjTURBANdAT SIGN
dDAIC AFFRICATION MARKiGEMINATION MARKiLETTER ABqDqGqHqINqKrSAqLqMqNqPqQqRqSrHrZqTrTqZpDUSHENNA
pHALQApINqTpKADpUSHENNAiPUNCTUATIONiVOCALIZATION MARKdGOdICHAEAN ABBREVIATION MARK ABOVE&BELOW
lLETTER AAYINtLEPHtYINsBETHtHETHsDALETHtHAMEDHsFEsGHIMELtIMELsHEuTHsJAYINtHAYINsKAPHtHAPHsLAMEDH
sMEMsNUNsPEsQHOPHtOPHsRESHsSADHEuMEKHtHINtSHINsTAWtETHtHAMEDHsWAWsXAPHtOPHsYODHsZAYINtHAYIN
lNUMBER FIVEsONEv HUNDREDsTENtWENTYlPUNCTUATION DOT! WITHIN DOTzUBLE DOT WITHIN DOTxFLEURON
xLINE FILLERxSTARxTWO DOTSlSIGN UDdS SHOEdTELPIECE CLOCKdUAL WHEELCHAIRcP SYMBOL FOR LIGHTHOUSE
dLE LEAFcRCHEN HEAD MARKiLETTER -ApApBApCAqHApDAqZApGApHApJApKAqHApLApMApNAqGAqYApPAqHApRApSAqHApTA
qHAqSArHApWApYApZAqHAiMARK SHADiSIGN ANUSVARAnCANDRABINDUjUBJOINED LETTER AzBAzCA!HAzDA!ZAzGAzHAzJA
zKA!HAzLAzMAzNA!GA!YAzPA!HAzRAzSA!HAzTA!HA!SA$HAzWAzYAzZA!HAiVOWEL SIGN AAtEtItOtUdRIAGE SYMBOL
dTIAL ARTS UNIFORMcSARAM GONDI DIGIT EIGHTuFIVEvOURuNINEuONEuSEVENvIXuTHREEvWOuZEROoLETTER AwAwIwU
vBAwHAvCAwHAvDAwDAxHAwHAvEvGAwHAvHAvIwIvJAwHAwNYAvKAwHAwSSAvLAwLAvMAvNAwGAwNAwYAvOvPAwHAvRAvSAwHA
wSAvTAwHAwRAwTAxHAvUwUvVAvYAoRA-KARApEPHAoSIGN ANUSVARAtCANDRAtHALANTAtNUKTAtVISARGAoVIRAMA
pOWEL SIGN AA!I!UzEzI!IzOzU!UzVOCALIC RdCULINE ORDINAL INDICATORdK WORK SYMBOLdU MARKcTE DRINK
dHEMATICAL BOLD CAPITAL A$LPHA!B$ETA!C$HI!D$ELTA$IGAMMA!E$PSILON$TA!F!G$AMMA!H!I$OTA!J!K$APPA!L
$AMDA!M$U!N$U!O$MEGA%ICRON!P$HI$I$SI!Q!R$HO!S$IGMA!T$AU$HETA) SYMBOL!U$PSILON!V!W!X$I!Y!Z$ETA
sDIGIT EIGHTyFIVEzOURyNINEyONEySEVENzIXyTHREEzWOyZEROsEPSILON SYMBOLsFRAKTUR CAPITAL A,B,C,D,E,F,G
,H,I,J,K,L,M,N,O,P,Q,R,S,T,U,V,W,X,Y,Z!SMALL A*B*C*D*E*F*G*H*I*J*K*L*M*N*O*P*Q*R*S*T*U*V*W*X*Y*Z
sITALIC CAPITAL A,LPHA+B,ETA+C,HI+D,ELTA+E,PSILON,TA+F+G,AMMA+H+I,OTA+J+K,APPA+L,AMDA+M,U+N,U+O
,MEGA.ICRON+P,HI,I,SI+Q+R,HO+S,IGMA+T,AU,HETA< SYMBOL+U,PSILON+V+W+X,I+Y+Z,ETAzEPSILON SYMBOL
zKAPPA SYMBOLzNABLAzPARTIAL DIFFERENTIAL!HI SYMBOL!I SYMBOLzRHO SYMBOLzSMALL A*LPHA)B*ETA)C*HI)D
*ELTA)E*PSILON*TA)F*INAL SIGMA)G*AMMA)H)I*OTA)J)K*APPA)L*AMDA)M*U)N*U)O*MEGA+ICRON)P*HI*I*SI)Q)R*HO
)S*IGMA)T*AU*HETA)U*PSILON)V)W)X*I)Y)Z*ETAzTHETA SYMBOLsKAPPA SYMBOLsNABLAsPARTIAL DIFFERENTIAL
tHI SYMBOLtI SYMBOLsRHO SYMBOLsSCRIPT CAPITAL A+B+C+D+E+F+G+H+I+J+K+L+M+N+O+P+Q+R+S+T+U+V+W+X+Y+Z
zSMALL A)B)C)D)E)F)G)H)I)J)K)L)M)N)O)P)Q)R)S)T)U)V)W)X)Y)ZtMALL AzLPHAyBzETAyCzHIyDzELTAzIGAMMAyE
zPSILONzTAyFzINAL SIGMAyGzAMMAyHyIzOTAyJyKzAPPAyLzAMDAyMzUyNzUyOzMEGA!ICRONyPzHIzIzSIyQyRzHOySzIGMA
yTzAUzHETAyUzPSILONyVyWyXzIyYyZzETAsTHETA SYMBOLnDOUBLE-STRUCK CAPITAL A.B.D.E.F.G.I.J.K.L.M.O.S.T
.U.V.W.X.Y$DIGIT EIGHT+FIVE,OUR+NINE+ONE+SEVEN,IX+THREE,WO+ZERO$SMALL A+B+C+D+E+F+G+H+I+J+K+L+M+N+O
+P+Q+R+S+T+U+V+W+X+Y+ZnFALLING DIAGONALoRAKTUR CAPITAL A&B&D&E&F&G&J&K&L&M&N&O&P&Q&S&T&U&V&W&X&Y
vSMALL A$B$C$D$E$F$G$H$I$J$K$L$M$N$O$P$Q$R$S$T$U$V$W$X$Y$ZnITALIC CAPITAL A&LPHA%B&ETA%C&HI%D&ELTA
%E&PSILON&TA%F%G&AMMA%H%I&OTA%J%K&APPA%L&AMDA%M&U%N&U%O&MEGA(ICRON%P&HI&I&SI%Q%R&HO%S&IGMA%T&AU
&HETA+ SYMBOL%U&PSILON%V%W%X&I%Y%Z&ETAuEPSILON SYMBOLuKAPPA SYMBOLuNABLAuPARTIAL DIFFERENTIAL
vHI SYMBOLvI SYMBOLuRHO SYMBOLuSMALL A$LPHA!B$ETA!C$HI!D$ELTA$OTLESS I,J!E$PSILON$TA!F$INAL SIGMA!G
$AMMA!I$OTA!J!K$APPA!L$AMDA!M$U!N$U!O$MEGA%ICRON!P$HI$I$SI!Q!R$HO!S$IGMA!T$AU$HETA!U$PSILON!V!W!X$I
!Y!Z$ETAuTHETA SYMBOLnLEFT ANGLE BRACKETsDOUBLE ANGLE BRACKETsFLATTENED PARENTHESIS
sWHITE SQUARE BRACKETyTORTOISE SHELL BRACKETnMONOSPACE CAPITAL A)B)C)D)E)F)G)H)I)J)K)L)M)N)O)P)Q)R
)S)T)U)V)W)X)Y)ZxDIGIT EIGHT&FIVE(OUR&NINE&ONE&SEVEN(IX&THREE(WO&ZEROxSMALL A&B&C&D&E&F&G&H&I&J&K&L
&M&N&O&P&Q&R&S&T&U&V&W&X&Y&ZnRIGHT ANGLE BRACKETtDOUBLE ANGLE BRACKETtFLATTENED PARENTHESIS
tWHITE SQUARE BRACKETzTORTOISE SHELL BRACKETpSING DIAGONALnSANS-SERIF BOLD CAPITAL A<LPHA;B<ETA;C
<HI;D<ELTA;E<PSILON<TA;F;G<AMMA;H;I<OTA;J;K<APPA;L<AMDA;M<U;N<U;O<MEGA=ICRON;P<HI<I<SI;Q;R<HO;S
<IGMA;T<AU<HETA@ SYMBOL;U<PSILON;V;W;X<I;Y;Z<ETA&DIGIT EIGHT.FIVE:OUR.NINE.ONE.SEVEN:IX.THREE:WO
.ZERO&EPSILON SYMBOL&ITALIC CAPITAL A|LPHA_B|ETA_C|HI_D|ELTA_E|PSILON|TA_F_G|AMMA_H_I|OTA_J_K|APPA
_L|AMDA_M|U_N|U_O|MEGA~ICRON_P|HI|I|SI_Q_R|HO_S|IGMA_T|AU|HETA~ETA SYMBOL_U|PSILON_V_W_X|I_Y_Z|ETA
:EPSILON SYMBOL:KAPPA SYMBOL:NABLA:PARTIAL DIFFERENTIAL;HI SYMBOL;I SYMBOL:RHO SYMBOL:SMALL A^LPHA
@B^ETA@C^HI@D^ELTA@E^PSILON^TA@F^INAL SIGMA@G^AMMA@H@I^OTA@J@K^APPA@L^AMDA@M^U@N^U@O^MEGA_ICRON@P
^HI^I^SI@Q@R^HO@S^IGMA@T^AU^HETA@U^PSILON@V@W@X^I@Y@Z^ETA:THETA SYMBOL&KAPPA SYMBOL&NABLA
&PARTIAL DIFFERENTIAL(HI SYMBOL(I SYMBOL&RHO SYMBOL&SMALL A:LPHA.B:ETA.C:HI.D:ELTA.E:PSILON:TA.F
:INAL SIGMA.G:AMMA.H.I:OTA.J.K:APPA.L:AMDA.M:U.N:U.O:MEGA;ICRON.P:HI:I:SI.Q.R:HO.S:IGMA.T:AU:HETA.U
:PSILON.V.W.X:I.Y.Z:ETA&THETA SYMBOLyCAPITAL A*B*C*D*E*F*G*H*I*J*K*L*M*N*O*P*Q*R*S*T*U*V*W*X*Y*Z
yDIGIT EIGHT(FIVE)OUR(NINE(ONE(SEVEN)IX(THREE)WO(ZEROyITALIC CAPITAL A=B=C=D=E=F=G=H=I=J=K=L=M=N=O
=P=Q=R=S=T=U=V=W=X=Y=Z)SMALL A;B;C;D;E;F;G;H;I;J;K;L;M;N;O;P;Q;R;S;T;U;V;W;X;Y;ZySMALL A(B(C(D(E(F
(G(H(I(J(K(L(M(N(O(P(Q(R(S(T(U(V(W(X(Y(ZoCRIPT CAPITAL A%C%D%G%J%K%N%O%P%Q%S%T%U%V%W%X%Y%ZuSMALL A
!B!C!D!F!H!I!J!K!L!M!N!P!Q!R!S!T!U!V!W!X!Y!ZcXIMIZEcYAN NUMERAL EIGHTtEENpLEVENoFIFTEENqVEpOURsTEEN
oNINEsTEENoONEoSEVENtTEENpIXrTEENoTENpHIRTEENqREEpWELVEqOoZERObEASURED ANGLEo OPENING LEFT
pWITH OPEN ARM ENDING IN ARROW POINTING DOWN AND LEFT~OINTING DOWN AND RIGHT~OINTING LEFT AND DOWN
~OINTING LEFT AND UP~OINTING RIGHT AND DOWN~OINTING RIGHT AND UP~OINTING UP AND LEFT
~OINTING UP AND RIGHTjBYjRIGHT ANGLE WITH DOTdT ON BONEcCHANICAL ARMlLEGcDEFAIDRIN CAPITAL LETTER A
%I%TIU$B$C$D$E$F$G$H%P$I$J$K%P$L$M$N%G%Y$O%E$P$Q$R$S$T$U$V$W$X$Y%U$ZnOMMAmDIGIT EIGHTsFIVEtOURsNINE
sONEv ALTERNATE FORMsSEVENtIXsTHREEx ALTERNATE FORMtWOv ALTERNATE FORMsZEROmEXCLAMATION OH
mFULL STOPmNUMBER EIGHTEENuLEVENtFIFTEENuOURTEENtNINETEENtSEVENTEENuIXTEENtTENuHIRTEENuWELVE
mSMALL LETTER A!I!TIUzBzCzDzEzFzGzH!PzIzJzK!PzLzMzN!G!YzO!EzPzQzRzSzTzUzVzWzXzY!UzZnYMBOL AIVA
dIEVAL COMMAjEXCLAMATION MARKjQUESTION MARKeUM BLACK CIRCLEiOLD WHITE CIRCLE
hEIGHT POINTED BLACK STARnSPOKED ASTERISKhFIVE SPOKED ASTERISKiLATTENED LEFT PARENTHESIS ORNAMENT
rRIGHT PARENTHESIS ORNAMENTiOUR POINTED BLACK STARuPINWHEEL STARhGREEK CROSS
hLEFT CURLY BRACKET ORNAMENTmPARENTHESIS ORNAMENTl-POINTING ANGLE BRACKET ORNAMENT
hMATHEMATICAL SPACEhRIGHT CURLY BRACKET ORNAMENTnPARENTHESIS ORNAMENT
m-POINTING ANGLE BRACKET ORNAMENThSALTIREiHADEiIX POINTED BLACK STARlSPOKED ASTERISK
iMALL WHITE CIRCLEhTHREE POINTED BLACK STARvPINWHEEL STARhVERTICAL BARhWHITE CIRCLEnSQUARE
cETEI MAYEK AHANG KHUDAMoNJIoPUN IYEKnCHEIKHANtEInDIGIT EIGHTtFIVEuOURtNINEtONEtSEVENuIXtTHREEuWO
tZEROnLETTER ATIYAuBAvHAMuCHAwILuDDAwHAvHOUvILuEuGHOUvOKuHUKuIv LONSUMuJHAMvILuKHOUvOKx LONSUMuLAI
x LONSUMuMITx LONSUMuNAw LONSUMvGOUy LONSUMvNAvYAuOuPAw LONSUMvHAMuRAIuSAMvHAvSAuTHOUvILx LONSUMvTA
wHAuUNuWAIuYANGoUM IYEKnSYLLABLE REPETITION MARKnVIRAMAoOWEL SIGN AAI!UzNAPzUyCHEINAPyIIzNAPyNUNG
yONAPySOUNAPyUNAPzUyVISARGAyYENAPnWORD REPETITION MARKcLONdTING FACEcMO
cNDE KIKAKUI COMBINING NUMBER HUNDRED THOUSANDS<S)MILLIONS)TEENS+N THOUSANDS,S*HOUSANDSoDIGIT EIGHT
uFIVEvOURuNINEuONEuSEVENvIXuTHREEvWOoSYLLABLE M001 KI!2 KA!3 KU!4 WI!5 WA!6 WU!7 MIN!8 MAN!9 MUN
z10 BI!1 BA!2 BU!3 I!4 A!5 U!6 DI!7 DA!8 DU!9 SIz20 SA!1 SU!2 TI!3 TA!4 TU!5 LI!6 LA!7 LU!8 JI!9 JA
z30 JU!1 YI!2 YA!3 YU!4 FI!5 FA!6 FU!7 NIN!8 NAN!9 NUNz40 HEE!1 HA!2 HOO!3 NGGA!4 KPEE!5 WO!6 HUAN
!7 MBEE!8 KO!9 WVAz50 PU!1 PE!2 HEN!3 HIN!4 LOO!5 TE!6 GBA!7 NGON!8 NYAN!9 MENz60 NYON!1 WVI!2 MBA
!3 JO!4 NDO!5 KEE!6 PO!7 NDOO!8 PI!9 TOz70 GBO!1 GBOO!2 MBE!3 LE!4 KPU!5 FE!6 KOO!7 VO!8 FEE!9 SO
z80 YE!1 PEE!2 NGGU!3 HEEI!4 LEE!5 VE!6 LONG NGGE!7 HUN!8 FO!9 DEEz90 NGGI!1 TEE!2 KPA!3 GBEE!4 MON
!5 KE!6 HE!7 BE!8 NYEN!9 PAy100 E!1 FAN!2 POO!3 BOO!4 TOO!5 LONG MBOO!6 LONG NGGOO!7 GBE!8 KPE
!9 YEEz10 LONG LE!1 GA!2 KPOO!3 JE!4 WOO!5 NGGEE!6 SE!7 NEN!8 WE!9 NDEz20 NGGO!1 YO!2 MBU!3 NDI
!4 GBI!5 NDU!6 WEE!7 NGGUA!8 HOOU!9 NDAz30 HAN!1 IN!2 KPI!3 FOO!4 NJOO!5 IN!6 SOO!7 EI!8 BO!9 WVE
z40 HO!1 YOO!2 LONG MBO!3 WEI!4 VOO!5 MBI!6 NGGE!7 O!8 GBU!9 NJEEz50 BEE!1 VU!2 NJA!3 LO!4 MUAN
!5 GI!6 NGGOO!7 JEE!8 KPO!9 NGGAAz60 JOO!1 LONG MBE!2 SEE!3 EE!4 NYIN!5 OO!6 GUEI!7 GUAN!8 GU!9 NON
z70 NYUN!1 RA!2 MBOO!3 VEE!4 MBO!5 LONG JO!6 HI!7 NGUAN!8 EN!9 KUAz80 DOO!1 DO!2 VI!3 LONG NGGO
!4 NGEN!5 VA!6 HU!7 MBUU!8 MBEE!9 MUENz90 GEE!1 NDEE!2 NJU!3 HON!4 WUI!5 AN!6 SIA!7 FUA
dORAH WITH NINE BRANCHESdS SYMBOLcRCURYdOITIC CURSIVE FRACTION EIGHT TWELFTHS$LEVEN TWELFTHS
!FIVE TWELFTHS$OUR TWELFTHS!NINE TWELFTHS!ONE HALF(TWELFTH!SEVEN TWELFTHS$IX TWELFTHS!TEN TWELFTHS
$HREE TWELFTHS$WO TWELFTHSrLETTER AzRCHAIC SAyBAyDAyEyHHAyIyKAzHAyLAyMAyNAzEyOyPAyQAyRAySAzEyTAzEzO
yWAyYAsOGOGRAM IMN!RMTrNUMBER EIGHT& HUNDRED; THOUSAND(THOUSAND&Y THOUSANDyFIFTY& THOUSAND!VE
% HUNDRED: THOUSAND&THOUSANDzORTY& THOUSAND!UR% HUNDRED: THOUSAND&THOUSANDyNINE% HUNDRED: THOUSAND
&THOUSAND%TY THOUSANDyONE$ HUNDRED. THOUSAND%THOUSANDySEVEN& HUNDRED; THOUSAND(THOUSAND&TY
) THOUSANDzIX$ HUNDRED. THOUSAND%THOUSAND$TY& THOUSANDyTEN$ THOUSANDzHIRTY( THOUSAND!REE& HUNDRED
; THOUSAND(THOUSANDzWENTY( THOUSAND!O$ HUNDRED. THOUSAND%THOUSANDjHIEROGLYPHIC LETTER A&BA)-2&DA&E
&HHA&I&KA(HA&LA&MA&NA)-2(E)-2&O&PA&QA&RA)-2&SA)-2(E&TA)-2(E)-2(O&WA&YAwSYMBOL VIDJ+-2dPERSON
cSSAGE WAITINGcTRICAL BREVEjLONG OVER SHORTtTWO SHORTSjPENTASEMEjSHORT OVER LONGjTETRASEMEkRISEME
kWO SHORTS JOINEDuOVER LONGeObIAO LETTER AHnRCHAIC MAuNAvGAuZZAmBAnRImDAnDAnLHApYAnZAoHAoYIoZAmFA
mGAnHAoHAmHAnHAmKAmLAnHAoYAnYAmMAnHAmNAoSALIZATIONnGAoHAnHAnNAoHAnYAoHAmPAnLAmQAnGAmREFORMED TONE-1
!2!4!5!6!8wSHAnTEmSAnHAnSAnYImTAnEnLHApYAnONE-2r3r4r5r6r7r8nSAoEoHAoSAnTAmVAnFAmWAmXAmYI DZHApKA
pNNApPApTAqSArHAqTAmZAnHAnSAoHAnZAoSApYAoYAfSIGN ASPIRATIONkCONSONANT MODIFIER BAR
kREFORMED ASPIRATIONtVOICINGfTONE ABOVEkBELOWkRIGHTkTOP RIGHTfVOWEL SIGN ArArEsErHHrIrNsGrUqErArIrN
sGrRsRqIrAsNtGrErGrIrNGrOsNGrUqNrGqOrERsYrGrOrUqROUNDED ER!RqUrAsNtGrEIrIrNGrOGrUqVWqWrOqYrIrUI
cCR DASH SYMBOLfON US SYMBOLeO SIGNfBEfPHONEfSCOPEcDDLE DOThTHIRD WHITE RIGHT POINTING INDEX
dLINE HORIZONTAL ELLIPSIScLITARY HELMETjMEDALdKY WAYdL SIGNcNIBUSeDISCeMIZEdUS SIGNk IN TRIANGLE
lWITH COMMA ABOVEqDOT BELOWqFALLING DOTSqRISING DOTSgTILDEf-OR-PLUS SIGNdYcRRORg BALLbMSP
bOBILE PHONEm OFFnWITH RIGHTWARDS ARROW AT LEFTcDELSeRN PENTATHLONdI ABBREVIATION SIGNfDANDA
gIGIT EIGHTlFIVEmOURlNINElONElSEVENmIXlTHREEmWOlZEROgOUBLE DANDAfLETTER AnAnInUmBAnHAmCAnHAmDAnDA
oHAnHAmEmGAnHAmHAmInImJAnHAmKAnHAmLAnLAmMAmNAnGAnNAnYAmOmPAnHAmRAmSAnHAnSAmTAnHAnTAoHAmUnUmVA
nOCALIC LvLuRvRmYAfSIGN ANUSVARAlRDHACANDRAkHUVAkVIRAMAmSARGAfVOWEL SIGN AArIrUqEqIrIqOqUrU
qVOCALIC LzLyRzReFIER BREVE WITH INVERTED BREVEjLETTER ACUTE ACCENTrLVEOLAR CLICKrPOSTROPHE
qBEGIN HIGH TONEwLOW TONErILABIAL CLICKqCAPITAL AzEyBzARRED ByCyDyEyFyGyHz WITH STROKEyIyJyKyLyMyN
yOzUyPyQyRzEVERSED E+NyTyUyVyWrENTRED LEFT HALF RINGyRIGHT HALF RINGrHINESE TONE YANG PING,QU,RU
,SHANG(IN PING+QU+RU+SHANGrIRCUMFLEX ACCENTrOLONrROSS ACCENTrYRILLIC ENzHARD SIGNzSOFT SIGN
qDENTAL CLICKrOT HORIZONTAL BARuSLASHuVERTICAL BARsUBLE APOSTROPHExPRIMEsWN ARROWHEADvTACK
qEND HIGH TONEuLOW TONErXTRA-HIGH DOTTED LEFT-STEM TONE BAR,TONE BAR$LEFT-STEM TONE BAR$TONE BAR
wLOW DOTTED LEFT-STEM TONE BAR+TONE BAR!LEFT-STEM TONE BAR!TONE BARqGEORGIAN NARrLOTTAL STOP
% WITH STROKErRAVE ACCENTqHALF TRIANGULAR COLONrIGH DOTTED LEFT-STEM TONE BAR%TONE BAR
vLEFT-STEM TONE BARvTONE BARqLATERAL CLICKrEFT ARROWHEADvHALF RINGvTACKrOW ACUTE ACCENT
uCIRCUMFLEX ACCENTuDOTTED LEFT-STEM TONE BAR$TONE BARwWN ARROWHEADuGRAVE ACCENT
uINVERTED EXCLAMATION MARKuLEFT ARROW(HEADy-STEM TONE BARuMACRONuRIGHT ARROWHEADwNGuTILDEvONE BAR
uUP ARROWHEADuVERTICAL LINEtER RIGHT CORNER ANGLEqMACRONrID DOTTED LEFT-STEM TONE BAR$TONE BAR
uLEFT-STEM TONE BARuTONE BARtDLE DOUBLE ACUTE ACCENT(GRAVE ACCENTxGRAVE ACCENTsNUS SIGNqOPEN SHELF
qPLUS SIGNrRIMEqRAISED COLONxDOWN ARROWxEXCLAMATION MARKxINVERTED EXCLAMATION MARKxUP ARROW
rETROFLEX CLICK WITH RETROFLEX HOOKsVERSED COMMAzGLOTTAL STOP; WITH STROKErHOTIC HOOK
rIGHT ARROWHEADwHALF RINGwTACKqSHELFsORT EQUALS SIGNrMALL AxExINxLPHAwBx WITH HOOKxARRED OxETA
xOTTOM HALF OwCx WITH CURLxAPITAL AA(B(G) WITH HOOK(H(I) WITH STROKE)NVERTED R(L) WITH BELT(N(OE(R
(U(YxHIxLOSED OMEGA&REVERSED OPEN EwDx WITH HOOK+ AND TAIL&TAILxELTAyZH DIGRAPH
xOTLESS J WITH STROKE^ AND HOOKxZ DIGRAPH* WITH CURL<RETROFLEX HOOKwExNGxSHxTHxZHwFxENG DIGRAPHwG
x WITH HOOKxAMMAxREEK GAMMA%PHIwHx WITH HOOK&STROKExENG! WITH HOOKwI WITH STROKExOTAwJ
x WITH CROSSED-TAILwKwLx WITH BELT&INVERTED LAZY S&MIDDLE TILDE&PALATAL HOOK&RETROFLEX HOOK
^ AND BELTxEZH! WITH RETROFLEX HOOKxIGATURE OExS DIGRAPHxZ DIGRAPHwMx WITH HOOKwN WITH LEFT HOOK
&RETROFLEX HOOKwOx WITH STROKExPEN E$OwPxHIwQwRx WITH FISHHOOK&TAILxAMS HORNxEVERSED E)GLOTTAL STOP
)OPEN EwSx WITH CURL&HOOKxCHWAyRIPT GxIDEWAYS UwTx WITH PALATAL HOOK&RETROFLEX HOOK
xC DIGRAPH WITH CURLxESH DIGRAPHxHETAxOP HALF OxS DIGRAPH* WITH RETROFLEX HOOKxURNED A(E(LPHA&H&I&M
( WITH LONG LEG&OPEN E&R( WITH HOOK:LONG LEG_ AND RETROFLEX HOOK&V&W&Y( WITH BELTwUx BAR
yWITH LEFT HOOKxPSILONwVx WITH HOOK&RIGHT HOOKwWwXwYwZx WITH CURL&RETROFLEX HOOK
rTRESS AND HIGH TONE$LOW TONErUPERSCRIPT HALF TRIANGULAR COLON%TRIANGULAR COLONqTRIANGULAR COLON
rURNED COMMAqUNASPIRATEDrP ARROWHEADtTACKrSqVERTICAL LINErOICINGqYANG DEPARTING TONE MARK
rIN DEPARTING TONE MARKdULO TWO SUMcNEY BAGgWITH WINGSf-MOUTH FACEdGOLIAN BIRGA
p WITH DOUBLE ORNAMENTvORNAMENTkCOLONmMMAkDIGIT EIGHTqFIVErOURqNINEqONEqSEVENrIXqTHREErWOqZERO
lOUBLE BIRGA WITH ORNAMENTkELLIPSISkFOUR DOTSlREE VARIATION SELECTOR FOUR,ONE,THREE.WOlULL STOP
kINVERTED BIRGAy WITH DOUBLE ORNAMENTkLETTER AsLI GALI A$H$NUSVARA ONE!BALUDA!CA!DA%GALGA%MARU$DA
!HALF U)YA!I$NVERTED UBADAMA!KA!NGA$NA!PA$HA!SSA!TA$HREE BALUDA$TA%HA!UBADAMA!VISARGA ONE!ZA$HAsNG
rBArCHAu WITH TWO DOTStIrDArEsErFArGArHAArIrJArKAsHArLAsHArMAtNCHU ALI GALI BHA+CA,YA+DDHA,HA+GHA
+JHA+LHA+NGA+SSA+TA,TA+ZA,HAyFAyIyKAyRAyZHArNArOsErPArQArRArSAsHAsIBE ANGwCHAwDAwEwFAwGAyAwHAyAwIxY
wJAwKAwPAwRAAwSHAwTAxSAwUxEwZAxHArTAsODO ALI GALI TA)ZHAxNGwBAwCHAwDAxZAwEwGAyAwHAAwIwJAxIAwKA
wLONG VOWEL SIGNwMAwNIAwOxEwPAwQAwTAxSAwUxEwWAwYAsSArUsErWArYArZAsHIsRAkMANCHU COMMArFULL STOP
kNIRUGUkROTATED BIRGAx WITH DOUBLE ORNAMENT&ORNAMENTkSIBE SYLLABLE BOUNDARY MARKERlWIRL BIRGA
v WITH DOUBLE ORNAMENT$ORNAMENTkTODO SOFT HYPHENlRIPLE BIRGA WITH ORNAMENT
lURNED SWIRL BIRGA WITH DOUBLE ORNAMENTkVOWEL SEPARATORdKEYg FACEdOGRAM FOR EARTHnYANGoINeRAIL
eSTABLE SYMBOLcOD BUBBLEdN CAKEfVIEWING CEREMONYcSQUEfITOcTHER CHRISTMASdOR BOATgSCOOTER
fIZED WHEELCHAIRfWAYcUNT FUJIfAINi BICYCLISTjCABLEWAYjRAILWAYdSEf FACEgTRAPdTHcVIE CAMERAcYAI
bRO DANDAfIGIT EIGHTkFIVElOURkNINEkONEkSEVENlIXkTHREElWOkZEROfOUBLE DANDAeLETTER AlBAlCHUlDAnIlEmA
lHAInOlKEAAEmHAImOlLAnNlMAEMmIMlNGImINlOmLmOlPAmHIlRImOlSHIlTAmEKmHEAlWAlYObUCH GREATER-THAN
fLESS-THANcLTANI LETTER ApBAqHApCAqHApDAqDArDArHAqHApEpGAqHApHApIpJAqJApKAqHApLApMApNAqNAqYApPAqHA
pRAqHAqRApSApTAqHAqTArHApUpVApYAiSECTION MARKeIMAPfPLE MUSICAL NOTEShICATION SIGNt IN DOUBLE CIRCLE
xLEFT HALF CIRCLExRIGHT HALF CIRCLExTRIANGLEuWITH DOT ABOVEzUNDERBARpXfSETi MULTIPLICATIONjUNION
cSHROOMdIC FLAT SIGNgNATURAL SIGNgSHARP SIGNfAL KEYBOARDq WITH JACKSiNOTEiSCORE
jYMBOL ARPEGGIATO DOWN!UPpBEGIN BEAMvPHRASEvSLURvTIEqRACEtKETrEATH MARKsVEtISv RESTpC CLEFqAESURA
qIRCLE X NOTEHEADqLIMACUSsVISrUSTER NOTEHEAD BLACK*WHITEqODArMBINING ACCENT)-STACCATO
!UGMENTATION DOTzBENDzDOIT$UBLE TONGUE$WN BOWzFLAG-1(2(3(4(5$IPzHARMONICzLOUREzMARCATO*-STACCATO
zRIPzSMEAR!NAP PIZZICATO!PRECHGESANG STEM!TACCATISSIMO*O$EMzTENUTO!REMOLO-1+2+3$IPLE TONGUEzUP BOW
sMON TIMEqRESCENDOrOIXqUT TIMEpDA CAPOrL SEGNOrMPt ALLrSHED BARLINEqECRESCENDOrGREE SLASH
qOUBLE BARLINEwFLATwSHARPqRUM CLEF-1z2pEIGHTH NOTEwRESTqND BEAMtOF STIMMEtPHRASEtSLURtTIEpF CLEF
v OTTAVA ALTA&BASSAqERMATAw BELOWqINAL BARLINEsGERED TREMOLO-1*2*3rVE-LINE STAFFqLAT DOWNuUPqORTE
rUR-LINE STAFFuSTRING FRETBOARDqUSA BLACKuWHITEpG CLEFv OTTAVA ALTA&BASSAqLISSANDO DOWNzUP
qRACE NOTE NO SLASH!SLASHrEGORIAN C CLEFzF CLEFpHALF NOTEuPEDAL MARKuRESTrUPTSTIMMEpINVERTED TURN
pKIEVAN C CLEFwEIGHTH NOTE STEM DOWN=UPxND OF PIECEwFINAL NOTExLAT SIGNwHALF NOTE
wQUARTER NOTE STEM DOWN>UPwRECITATIVE MARKwWHOLE NOTEqORONpLEFT REPEAT SIGNqONGAu IMPERFECTA REST
vPERFECTA RESTpMAXIMAqEZZOqINIMAv BLACKwRESTqOON NOTEHEAD BLACK&WHITEqULTI RESTuPLE MEASURE REST
pNATURAL DOWNxUPqEBENSTIMMEqOTEHEAD BLACKqULL NOTEHEADpONE HUNDRED TWENTY-EIGHTH NOTE?REST
s-LINE STAFFqRNAMENT STROKE-1*0*1)2)3)4)5)6)7)8)9qTTAVA ALTAwBASSApPARENTHESIS NOTEHEADqEDAL MARK
vUP MARKrS SUBPUNCTISqIANOqLUS NOTEHEADqODATUSrRRECTUSy FLEXUSpQUARTER NOTExRESTxTONE FLAT%SHARP
rINDICESIMA ALTA%BASSApREPEAT DOTSvED FIGURE-1)2)3rVERSE FINAL BARLINEqIGHT REPEAT SIGNrNFORZANDO
pSCANDICUSy FLEXUSqEGNOrMIBREVIS BLACK!REST!WHITEtMINIMA BLACK!REST!WHITEqHARP DOWNvUPrORT BARLINE
qINGLE BARLINErX-LINE STAFFtSTRING FRETBOARDsTEENTH NOTEzRESTtY-FOURTH NOTE%RESTqORIqQUARE B
wNOTEHEAD BLACK)WHITEqUBITOpTEMPUS IMPERFECTUM CUM PROLATIONE IMPERFECTA~NE IMPERFECTA DIMINUTION-1
~NE IMPERFECTA DIMINUTION-2~NE IMPERFECTA DIMINUTION-3~NE PERFECTA
wPERFECTUM CUM PROLATIONE IMPERFECTA~ PERFECTA~ PERFECTA DIMINUTION-1qHIRTY-SECOND NOTE&REST
rREE-LINE STAFFqORCULUSx RESUPINUSqRrIANGLE NOTEHEAD DOWN BLACK<WHITE+LEFT BLACK<WHITE+RIGHT BLACK
=WHITE+UP BLACK:RIGHT BLACK@WHITE:WHITEx-ROUND NOTEHEAD DOWN BLACK_WHITEqURNt SLASHuUP
qWO-LINE STAFFpVIRGAqOID NOTEHEADpWHOLE NOTEvRESTqITH FINGERNAILSpX NOTEHEADpZbVSbW
bYANMAR CONSONANT SIGN MEDIAL HA(RA(WA(YAyON MEDIAL LA,MA,NAxSHAN MEDIAL WAiDIGIT EIGHToFIVEpOUR
oNINEoONEoSEVENpIXoTHREEpWOoZEROiLETTER AqITON RAqUpBAqHApCAqHApDAqDArHAqHApEqASTERN PWO KAREN GHWA
+NNA+YWApGAqHAqREAT SApHApIqIpJAqHApKAqHAsMTI CAxHAwDDAyHAxHAwFAwGAwHAxHAwJAxHAwLLAwNAxYAwRAwSAwTTA
yHAwXAwZApLAqLApMAqON BBAvEtEtJHAtNGApNAqGAqNArYAqYApOpPAqHApRAqUMAI PALAUNG FApSAqGAW KAREN SHAqHA
sN AuBAvHAuCAvHAuDAuFAuGAvHAuHAuJHAuKAvHAuNAvNAvYAuPHAuTHAuZArWE PALAUNG CHA%SHAqSApTArI LAING BA
!HAzDA!DA$HA!HAzFAzGA!HAzJA!HAzLLAzNNA!YAqHAqTArHApUqUpVOCALIC LyLxRyRpWAqESTERN PWO KAREN PWA+THA
pYAjOGOGRAM KHAMTI HMyOAYyQNiMODIFIER LETTER KHAMTI REDUPLICATIONySHAN REDUPLICATION
iSHAN DIGIT EIGHTtFIVEuOURtNINEtONEtSEVENuIXtTHREEuWOtZEROjIGN ANUSVARAoSATnDOT BELOWnKHAMTI TONE-1
z3nLITTLE SECTIONnPAO KAREN TONEnRUMAI PALAUNG TONE-5nSECTIONoHAN COUNCIL EMPHATIC TONE!TONE-2)3
sSAWsTONE-2x3x5x6nTAI LAING TONE-2%5nVIRAMApSARGAnWESTERN PWO KAREN TONE-1:2:3:4:5
jYMBOL AFOREMENTIONEDqITON EXCLAMATIONvONEvTWOpCOMPLETEDpGENITIVEpLOCATIVEpSHAN EXCLAMATIONuONE
iTAI LAING DIGIT EIGHTyFIVEzOURyNINEyONEySEVENzIXyTHREEzWOyZEROjONE MARK SGAW KAREN HATHI&KE PHO
iVOWEL SIGN AAuIvTON A!ItEu ABOVEtGEBA KAREN ItIuItKAYAH EEzOEzUtMON IIxOtSGAW KAREN EUuHAN AAyE
z ABOVEyFINAL YtTALL AAtUuUtVOCALIC L%L$R%RtWESTERN PWO KAREN EU;UEaN-ARY CIRCLED DOT OPERATOR
oPLUS OPERATORoTIMES OPERATORhOPRODUCTgINTERSECTIONgLOGICAL ANDoORgPRODUCT
gSQUARE INTERSECTION OPERATORnUNION OPERATORhUMMATIONgTIMES OPERATORgUNIONl OPERATOR WITH DOT!PLUS
gWHITE VERTICAL BARbABATAEAN CRUCIFORM NUMBER FOURkLETTER ALEPHsYINrBETHrDALETHrFINAL ALEPHxBETHxHE
xKAPHxLAMEDHxMEMxNUNxSHINxYODHrGIMELrHEtTHrKAPHrLAMEDHrMEMrNUNrPErQOPHrRESHrSADHEtMEKHsHINrTAWsETH
rWAWrYODHrZAYINkNUMBER FIVEsOURrONEu HUNDREDrTENsHREEsWENTYtOdLAcIL POLISHdRA SIGNcKcME BADGEcND
eINAGARI HEADSTROKEmLETTER AuAuIuUtBAuHAtCAuHAtDAuDAvHAuHAtEtGAuHAtHAtIuItJAuHAtKAuHAtLAuLAtMAtNA
uGAuNAuYAtOtPAuHAtRAuRAtSAuHAuSAtTAuHAuTAvHAtUuUtVAuOCALIC R%RtYAmSIGN ANUSVARAsVAGRAHArSIDDHAM
rVIRAMAtSARGAmVOWEL SIGN AAyIyUxExIyIxOxPRISHTHAMATRA ExUyUxVOCALIC R*RcRROW NO-BREAK SPACE
cTIONAL DIGIT SHAPESjPARKcUSEATED FACEcZAR AMULETbBHcSPbECKTIE
cGATED DOUBLE VERTICAL BAR DOUBLE RIGHT TURNSTILEfIVE ACKNOWLEDGEjCIRCLED DIGIT ZERO
rLATIN CAPITAL LETTER A<B<C<D<E<F<G<H<I<J<K<L<M<N<O<P<Q<R<S<T<U<V<W<X<Y<ZrNUMBER EIGHTEENzLEVEN
yFIFTEENzOURTEENyNINETEENySEVENTEENzIXTEENyTHIRTEENzWELVE$NTYrSQUARErTRIANGLEjDIAGONAL CROSS
sDIAMONDsMIDDLE RIGHT TO LOWER CENTREjSQUARED ABrCROSS MARKrICrLATIN CAPITAL LETTER A<B<C<D<E<F<G<H
<I<J<K<L<M<N<O<P<Q<R<S<T<U<V<W<X<Y<ZrPArQUESTION MARKrSArWCcITHER A SUBSET OF NOR EQUAL TO
mPERSET OF NOR EQUAL TOjPPROXIMATELY NOR ACTUALLY EQUAL TOiGREATER-THAN NOR EQUAL TO%IVALENT TO
zLESS-THANiLESS-THAN NOR EQUAL TOzIVALENT TOwGREATER-THANcLcPTUNEh FORM TWOcRD FACEcSSUS
dT WITH EGGSeING DOLLScUTEReRAL CHESS BISHOPu ROTATED NINETY DEGREES&TWO HUNDRED SEVENTY DEGREES
oEQUIHOPPERy ROTATED NINETY DEGREESoKINGs ROTATED NINETY DEGREES$TWO HUNDRED SEVENTY DEGREESpNIGHT
u ROTATED FORTY-FIVE DEGREES&NINETY DEGREES&ONE HUNDRED THIRTY-FIVE DEGREES
&THREE HUNDRED FIFTEEN DEGREES(WO HUNDRED SEVENTY DEGREES?TWENTY-FIVE DEGREESoPAWN
s ROTATED NINETY DEGREES$TWO HUNDRED SEVENTY DEGREESoQUEENt ROTATED NINETY DEGREES
%TWO HUNDRED SEVENTY DEGREESoROOKs ROTATED NINETY DEGREES$TWO HUNDRED SEVENTY DEGREESoTURNED BISHOP
vKINGwNIGHTvPAWNvQUEENvROOKiFACEcW LINEeMOON SYMBOLjWITH FACEeSHEQEL SIGNeTAI LUE DIGIT EIGHTsFIVE
tOURsNINEsONEsSEVENtIXsTHREEtWOsZEROmLETTER FINAL BzDzKzMzN!GzVtHIGH BAyDAyFAyHAyKAzVAyLAyMAyNAzGA
yPAzHAyQAySAzUAyTAzHAzSAyVAyXAzVAyYAtLOW BAxDAxFAxHAxKAyVAxLAxMAxNAyGAxPAyHAxQAxSAyUAxTAyHAySAxVA
xXAyVAxYAmSIGN LAEuVmTHAM DIGIT ONEnONE MARK-1w2mVOWEL SIGN AAzYyEyYxExIIyYxOyAzYyYxUyEzYyUyY
xVOWEL SHORTENERdA ABBREVIATION SIGNfCOMMAfDANDAgIGIT EIGHTlFIVEmOURlNINElONElSEVENmIXlTHREEmWO
lZEROgOUBLE COMMAmDANDAfGAP FILLERfINSERTION SIGNfLETTER AnAnInUmBAnHAmCAnHAmDAnDAoHAnHAmEmGAnHAmHA
mInImJAnHAmKAnHAmLAnHAmMAnHAmNAnGAoHAnHAnNAnYAoHAmOmPAnHAmRAnHAmSAnHAnSAmTAnHAnTAoHAmUnU
mVEDIC ANUSVARAnOCALIC LvLuRvRmWAmYAfOMfPLACEHOLDER MARKfSANDHI MARKgIDDHIhGN ANUSVARAlVAGRAHA
kCANDRABINDUkFINAL ANUSVARAkJIHVAMULIYAkNUKTAkUPADHMANIYAkVIRAMAmSARGAfVOWEL SIGN AArIrUqEqIrIqOqU
rUqVOCALIC LzLyRzRdLINE LEFTiRIGHTdSPAPERcXT LINEfPAGEbIGHT WITH STARScNJA
bKO COMBINING DOUBLE DOT ABOVEoLONG DESCENDING TONEtHIGH TONEtLOW TONEtRISING TONE
oNASALIZATION MARKoSHORT HIGH TONEuLOW TONEuRISING TONEhMAeDANTAYALANfIGIT EIGHTkFIVElOURkNINEkONE
kSEVENlIXkTHREElWOkZEROfOROME SIGNeEXCLAMATION MARKeHIGH TONE APOSTROPHEeLAJANYALANfETTER AlBAlCHA
lDAnGBASINNAlEmElFAlGBAlHAlIlJAmONA CHAqJAqRAlKAlLAlMAlNmAn WOLOSOmYAo WOLOSOlOmOlPAlRAmRAlSAlTAlU
lWAlYAfOW TONE APOSTROPHEeSYMBOL GBAKURUNENlOO DENNENeTAMAN SIGNbLbNBSPbO BICYCLESeREAK HEREdENTRY
i SIGNdMOBILE PHONESdONE UNDER EIGHTEEN SYMBOLdPEDESTRIANSeIRACYdSMOKING SYMBOLc-BREAK SPACE
cMINAL DIGIT SHAPESeSMA SIGNcN-BREAKING HYPHENePOTABLE WATER SYMBOLdFORKINGcRdDIC MARK SIGN
dMAL SUBGROUP OFs OR EQUAL TOdTH EAST AND SOUTH WEST ARROWmRROWq AND SOUTH EAST ARROW
rCROSSING NORTH WEST ARROW!SOUTH EAST ARROWrWITH HOOKlBLACK ARROWlDOUBLE ARROWlPOINTING BUDuLEAF
uVINE LEAFlSANS-SERIF ARROWlTRIANGLE-HEADED ARROW* TO BARlWHITE ARROWgINDIC FRACTION ONE EIGHTH
zHALFzQUARTERzSIXTEENTHvTHREE QUARTERS$SIXTEENTHSmPLACEHOLDER MARKmQUANTITY MARKpRTER MARK
mRUPEE MARKgWEST AND SOUTH EAST ARROWmRROWq AND NORTH EAST ARROWrCROSSING NORTH EAST ARROW
rTO CORNERuLONG BARrWITH HOOKlBLACK ARROWlDOUBLE ARROWlPOINTING BUDuLEAFuVINE LEAFlSANS-SERIF ARROW
lTRIANGLE-HEADED ARROW* TO BARlWHITE ARROWfEAST-POINTING AIRPLANEcSEcT A SUBSET OFiPERSET OF
fLMOST EQUAL TOfN ELEMENT OFfSYMPTOTICALLY EQUAL TOeCHECK MARKeEQUAL TOhIVALENT TOeGREATER-THAN
eIDENTICAL TOeLESS-THANeNORMAL SUBGROUP OFw OR EQUAL TOePARALLEL TOeSIGNfQUARE IMAGE OF OR EQUAL TO
lORIGINAL OF OR EQUAL TOeTILDEfRUEdCHED LEFT SEMICIRCLE WITH THREE DOTS
jOWER RIGHT-SHADOWED WHITE RIGHTWARDS ARROWiRIGHT SEMICIRCLE WITH THREE DOTS
iUPPER RIGHT-SHADOWED WHITE RIGHTWARDS ARROWdEe PADhGEeBOOKi WITH DECORATIVE COVERbULdL
cMBER EIGHTEEN FULL STOPiLEVEN FULL STOPhFIFTEEN FULL STOPiOURTEEN FULL STOPhNINETEEN FULL STOP
hSEVENTEEN FULL STOPiIGNjXTEEN FULL STOPhTEN FULL STOPiHIRTEEN FULL STOPiWELVE FULL STOP
kNTY FULL STOPdERO SIGNcSHU CHARACTER-1B170u1u2u3u4u5u6u7u8u9uAuBuCuDuEuFt80u1u2u3u4u5u6u7u8u9uAuB
uCuDuEuFt90u1u2u3u4u5u6u7u8u9uAuBuCuDuEuFtA0u1u2u3u4u5u6u7u8u9uAuBuCuDuEuFtB0u1u2u3u4u5u6u7u8u9uAuB
uCuDuEuFtC0u1u2u3u4u5u6u7u8u9uAuBuCuDuEuFtD0u1u2u3u4u5u6u7u8u9uAuBuCuDuEuFtE0u1u2u3u4u5u6u7u8u9uAuB
uCuDuEuFtF0u1u2u3u4u5u6u7u8u9uAuBuCuDuEuFs200u1u2u3u4u5u6u7u8u9uAuBuCuDuEuFt10u1u2u3u4u5u6u7u8u9uA
uBuCuDuEuFt20u1u2u3u4u5u6u7u8u9uAuBuCuDuEuFt30u1u2u3u4u5u6u7u8u9uAuBuCuDuEuFt40u1u2u3u4u5u6u7u8u9uA
uBuCuDuEuFt50u1u2u3u4u5u6u7u8u9uAuBuCuDuEuFt60u1u2u3u4u5u6u7u8u9uAuBuCuDuEuFt70u1u2u3u4u5u6u7u8u9uA
uBuCuDuEuFt80u1u2u3u4u5u6u7u8u9uAuBuCuDuEuFt90u1u2u3u4u5u6u7u8u9uAuBuCuDuEuFtA0u1u2u3u4u5u6u7u8u9uA
uBuCuDuEuFtB0u1u2u3u4u5u6u7u8u9uAuBuCuDuEuFtC0u1u2u3u4u5u6u7u8u9uAuBuCuDuEuFtD0u1u2u3u4u5u6u7u8u9uA
uBuCuDuEuFtE0u1u2u3u4u5u6u7u8u9uAuBuCuDuEuFtF0u1u2u3u4u5u6u7u8u9uAuBgITERATION MARKcT AND BOLT
bYIAKENG PUACHUE HMONG CIRCLED CAxDIGIT EIGHT&FIVE(OUR&NINE&ONE&SEVEN(IX&THREE(WO&ZEROxLETTER A)A
(CA(DA)LA(E)E(FA(GA(HA*H(I(KA(LA(MA)LA(NA)CA)KA)PA*LA)QA)RA)TA*SA*XA)YA(O)O(PA)LA(QA(RA)RA(SA(TA)SA
)XA(U(VA(W(XA)YA(YA(ZAyOGOGRAM NYAJxSIGN FOR ANIMAL*INVERTEBRATE*LOCATION*PERSON*THING%XW XW
yYLLABLE LENGTHENERxTONE-B%D%G%J%M%S%VaOBJECT REPLACEMENT CHARACTERcLIQUE ANGLE OPENING DOWNwUP
iHYPHENcSERVER EYE SYMBOLbCR AMOUNT OF CHECKeBELT BUCKLEfOW TIEfRANCH BANK IDENTIFICATIONeCHAIR
fUSTOMER ACCOUNT NUMBEReDASHfOUBLE BACKSLASHeFORKeHOOKeINVERTED FORKcTAGONAL SIGNdOPUSbDEN
bFFICE BUILDINGbGHAM FEATHER MARKgLETTER AILMnBEITHnCEIRToOLLnDAIRnEABHADHpDHADHpMHANCHOLLnFEARN
nGORTnIFINoODHADHnLUISnMUINnNGEADALoIONnONNoRnPEITHnRUISnSAILoTRAIFnTINNEnUATHoILLEANNoR
gREVERSED FEATHER MARKgSPACE MARKcONEKbHM SIGNbIL DRUMbK HAND SIGNbL CHIKI AHADjDIGIT EIGHTpFIVE
qOURpNINEpONEpSEVENqIXpTHREEqWOpZEROjGAAHLAA TTUDDAAGjLETTER AAJsKsMsWrGrLrNGrTqEDDrNrPrRRqIHrNYrR
rSqLAsArErIrOrUqOBrHrTTrVqUCrDrNNrYjMU TTUDDAGl-GAAHLAA TTUDDAAGjPHAARKAAkUNCTUATION DOUBLE MUCAAD
vMUCAADjRELAAcD CHINESE HOOK MARKmITERATION MARKeHUNGARIAN CAPITAL LETTER A(A(K(MB(ND&CLOSE E&E(B(C
)H)S(D(E(F(G)Y(H(J(K(L)Y(M)P(N)C)T*-SHAPED SIGN)Y(P(R(S)Z(T)Y(V(Z)S&I(I&NIKOLSBURG OE>UE&O(EE(O
&RUDIMENTA OE=UE&SHORT ER&U(NK(S(UoNUMBER FIFTYxVEvONEy HUNDREDzTHOUSANDvTENoSMALL LETTER A%A%K%MB
%ND$CLOSE E$E%B%C&H&S%D%E%F%G&Y%H%J%K%L&Y%M&P%N&C&T(-SHAPED SIGN&Y%P%R%S&Z%T&Y%V%Z&S$I%I
$NIKOLSBURG OE<UE$O%EE%O$RUDIMENTA OE;UE$SHORT ER$U%NK%S%UeITALIC LETTER AsBEsCHEsDEsEtFtKStLtMtNtR
uStSuHuSsHEsItIsKAtEtHEtUsNORTHERN TSEsOsPEtHEsSHEtOUTHERN TSEsTEtHEsUtUsVEsYEsZElNUMERAL FIFTYvVE
tONEtTENeKEYeNORTH ARABIAN LETTER AIN!LEFzBEHzDAD$LzES-1%2%3zFEHzGEEM!HAINzHAH!EHzKAF!HAHzLAMzMEEM
zNOONzQAFzREHzSADzTAH!EH!HAL$EHzWAWzYEHzZAH$INsNUMBER ONEzTEN!WENTYePERMIC LETTER ANsBURsCHERYsDOI
tZHOIuITAsEtFsGAIsHAsItAtEsKOKEsLEIsMENOEsNENOEsOtOsPEEIsREIsSHCHOOIuOOItIIsTAItSIUsUsVERtOOIsYAuT
tERvIvUtRYtUsZATAtHOIhSIAN NUMBER HUNDREDtONEtTENuWENTYvOmSIGN AsURAMAZDAA$-2$HArBAtGAsUUMISHrCArDA
tHYAAUSH!-2sIsUrFArGAsUrHArIrJAsIrKAsUrLArMAsIsUrNAsUrPArRAsUrSAsHAsSArTAsHAsUrUrVAsIrXA
sSHAAYATHIYArYArZAmWORD DIVIDERiONAL COMPUTEReSOGDIAN FRACTION ONE HALFmLETTER ALEPHvTERNATE AYIN
uYINtBETHtFINAL ALEPHzBETHzHEzNUN% WITH VERTICAL TAILzSADHE( WITH VERTICAL TAILzTAW
% WITH VERTICAL TAILtGIMELtHEvTHtKAPHtLAMEDHtMEMtNUNtPEtRESH-AYIN-DALETHtSADHEvMEKHuHINtTAWtWAW
tYODHtZAYINnIGATURE AYIN-DALETHmNUMBER FIVEuOURtONEw HUNDREDtTENuHIRTYvREEuWENTYvO
gUTH ARABIAN LETTER ALEF!YNzBETHzDALETH!HADHE%LETHzFEzGHAYN!IMELzHE$THzKAPH!HETHzLAMEDHzMEMzNUN
zQOPHzRESHzSADHE$MEKH$T!HINzTAW!ETH!HAW$ETHzWAWzYODHzZAYNsNUMBER FIFTYzONEvERIC INDICATOR
eTURKIC LETTER ORKHON A!B!D!EB$D$G$K$L$N$R$S$T$Y!G!L!N!Q!R!S$H!T!YzBASHzEC!LT!M!NC$G$T$Y!P!SH!ZzI!C
!QzO!E$K!P!Q!TsYENISEI A$B$D$E%B%G%K%N&G%T%Y$G$L$NG$Q$R$SH$T$Y!E$C$NC%T%Y$SH$Z!I$Q!OE%K$Q
eUYGHUR COMBINING DOT ABOVEzBELOWvTWO DOTS ABOVE(BELOWlLETTER ALEPHsBETHsFINAL HETHsGIMEL-HETHsKAPH
sLAMEDHtESHsMEMsNUNsPEsRESHsSADHEuMEKHtHINsTAWsWAWsYODHsZAYINlPUNCTUATION BARxFOUR DOTSxTWO BARS
$DOTSdER ADULTgMANgWOMANcIVEbM SYMBOLbN WITH EXCLAMATION MARK WITH LEFT RIGHT ARROW ABOVE
cCOMING AUTOMOBILEjBUSjFIRE ENGINEjPOLICE CARjTAXIcE BUTTON MOUSEeDOT LEADER
iOVER TWO DOTS PUNCTUATIONd-PIECE SWIMSUITcIONbPEN BOOKhXfCENTRE ASTERISKmBLACK STARmCROSS
mTEARDROP-SPOKED ASTERISKfFILE FOLDERgOLDERfHANDS SIGNfLOCKfMAILBOX WITH LOWERED FLAGsRAISED FLAG
fSUBSEThPERSETe-CIRCUIT-OUTPUT H-TYPE SYMBOLuL-TYPE SYMBOLfOUTLINED RIGHTWARDS ARROW
dRATING SYSTEM COMMANDcHIUCHUScPOSITIONcTICAL DISCm ICONeON KEYbR WITH DOT INSIDEcANGE BOOKhHEART
fUTANcIGINAL OFdYA AI LENGTH MARKhU LENGTH MARKgDIGIT EIGHTmFIVEnOURmNINEmONEmSEVENnIXmTHREEnWO
mZEROgFRACTION ONE EIGHTHtHALFtQUARTERtSIXTEENTHpTHREE QUARTERSvSIXTEENTHSgISSHARgLETTER AoAoIoUnBA
oHAnCAoHAnDAoDApHAoHAnEnGAoHAnHAnIoInJAoHAnKAoHAnLAoLAnMAnNAoGAoNAoYAnOnPAoHAnRAoHAoRAnSAoHAoSAnTA
oHAoTApHAnUoUnVAoOCALIC LwLvRwRnWAnYAoYAgSIGN ANUSVARAmVAGRAHAlCANDRABINDUlNUKTAlOVERLINElVIRAMA
nSARGAgVOWEL SIGN AAsIsUrErIsIrOrUsUrVOCALIC L!LzR!RcNATE LEFT PARENTHESIShRIGHT PARENTHESIS
cTHODOX CROSSbSAGE CAPITAL LETTER AwHwIxNvBRAvCHAvDHAvEwHCHAxKAxPAxTAySAwINvGHAvHAwYAvIvKAwHAwYAvLA
vMAvNAvOwINvPAvSAwHAvTAwSAxHAvUvWAvZAwHAgSMALL LETTER AuHuIvNtBRAtCHAtDHAtEuHCHAvKAvPAvTAwSAuINtGHA
tHAuYAtItKAuHAuYAtLAtMAtNAtOuINtPAtSAuHAtTAuSAvHAtUtWAtZAuHAcCcMANYA DIGIT EIGHToFIVEpOURoNINEoONE
oSEVENpIXoTHREEpWOoZEROiLETTER AqAqLEFpBApCAYNpDEELqHApEqEpFApGApHApIpJApKAAFqHApLAANpMIINpNUUNpOqO
pQAAFpRApSAqHIINpTApUpWAWpXApYAbTTERdOMAN SIYAQ ALTERNATE NUMBER EIGHT)FIVE*OUR. HUNDRED)NINE)SEVEN
*IX, HUNDRED)TEN, THOUSAND*HREE*WO, THOUSANDoFRACTION ONE HALF$SIXTHoMARRATANoNUMBER EIGHT! HUNDRED
$THOUSAND!Y$ THOUSANDvFIFTY! THOUSANDxVEz HUNDRED!THOUSANDwORTY! THOUSANDxURz HUNDRED!THOUSANDvNINE
z HUNDRED!THOUSANDzTY$ THOUSANDvONEy HUNDREDzTHOUSANDvSEVEN! HUNDRED$THOUSAND!TY% THOUSANDwIX
y HUNDREDzTHOUSANDyTY! THOUSANDvTENy THOUSANDwHIRTY$ THOUSANDxREE! HUNDRED$THOUSANDwWENTY$ THOUSAND
xOy HUNDREDzTHOUSANDbUNCE SIGNcTBOX TRAYdLINED BLACK STARjGREEK CROSSjLATIN CROSSjWHITE STAR
bVERHEATED FACEeLAPhPING BLACK SQUARESmWHITE AND BLACK SQUARESsSQUARESfINEbWLbXbYSTERaPACKAGEcD
dDING CHARACTERcGEe FACING UPfWITH CIRCLED TEXTlURLeReSdODAcHAWH HMONG CLAN SIGN FAJxHAMzWJxKHAByOO
yWMxLAUJyISxMUASxPHABxTHOJySABzHEEJzWBxVAJyWJxXYOOJxYAJyEEGoONSONANT AUxCAUyHAUxHAUyLAUyNAUxLAUxMAU
xNAUyCHAUyKAUyLAUyTHAUzSAUxPLHAUxQHAUxRAUxVAUxXAUxYAUnDIGIT EIGHTtFIVEuOURtNINEtONEtSEVENuIXtTHREE
uWOtZEROnMARK CIM HOMwKESxHAVwSOxUAMwTAUMxUBnNUMBER HUNDRED MILLIONS$SuMILLIONSuTEN BILLIONS
yTHOUSANDSxSvRILLIONSnSIGN AVsCIM CHEEMxUAM TSHOOJwHAIS LUS NTOG NTOGwNRES TOSwPUB DAWBwTSOV ROG
xXWV! CHWVsHLItNUBsIB YAMsLOSsMEEJ SUABxTSEEBtUSsNQIGtTUJsTAUtHIRD-STAGE HLItXHEEJ CEEVsVOS FEEM
wLUBwNRUAwSEEVwTHIAByOMxSHAB CEEBsXAUStIABtYEEM FAIByNTXIVyRHOyTOVuOOsZWJ THAJnVOWEL KAABwVvBvIBwV
vUBwVvVvWBwVuEBvEBwVvVuIABwVvBvVuOBvOBwVvVuUABwVvBvVuWBvVcLLASdM BRANCHfDOWN HANDfTREEfUP HAND
eS UP TOGETHEReYRENE LEFT-POINTING FLEURONmTTER ALEPHsYINrBETHrDALETHrFINAL NUNrGIMELrHEtTHrKAPH
rLAMEDHrMEMrNUNrPErQOPHrRESHrSADHEtMEKHsHINrTAWsETHrWAWrYODHrZAYINkNUMBER FIVEsOURrONErTENsHREE
sWENTYtOkRIGHT-POINTING FLEURONcNCAKESdDA FACEcPERCLIPcRACHUTEeGRAPH SEPARATORjOSjUS MARKeLLEL TO
jWITH HORIZONTAL STROKEoTILDE OPERATORdENTHESIZED DIGIT EIGHTuFIVEvOURuNINEuONEuSEVENvIXuTHREEvWO
oHANGUL CHIEUCH% AwIEUC! A$UvHIEUH! AvIEUNG! AvKHIEUKH% AwIYEOK$ AvMIEUM! AvNIEUN! AvPHIEUPH% A
wIEUP! AvRIEUL! AvSIOSz AvTHIEUTH% AwIKEUT$ AoIDEOGRAPH ALLIANCEyCALLzONGRATULATIONyEARTHzIGHT
zNTERPRISEyFESTIVALzINANCIAL!RE!VEzOURyHAVEyLABORyMETALzOONyNAMEzINEyONEyREACH!PRESENT!SOURCE$T
ySELF!VENzIXzOCIETYzPECIALzTOCK!UDYzUN!PERVISEyTENzHREEzWOyWATERzOODoKOREAN CHARACTER O HU*JEON
oLATIN CAPITAL LETTER A.B.C.D.E.F.G.H.I.J.K.L.M.N.O.P.Q.R.S.T.U.V.W.X.Y.ZuSMALL LETTER A+B+C+D+E+F
+G+H+I+J+K+L+M+N+O+P+Q+R+S+T+U+V+W+X+Y+ZoNUMBER EIGHTEENwLEVENvFIFTEENwOURTEENvNINETEENvSEVENTEEN
wIXTEENvTENwHIRTEENwWELVEyNTYdROTdT ALTERNATION MARKeIAL DIFFERENTIALiLINE BACKWARDnDOWNnFORWARDnUP
hLY-RECYCLED PAPER SYMBOLeNERSHIP SIGNeY POPPERcSSED SYMBOLfNGER SHIPeIVE-PULL-DOWN-OUTPUT SYMBOL
nUP-OUTPUT SYMBOLePORT CONTROLcU CIN HAU GLOTTAL STOPy FINALzVARIANTmLETTER AtBAtCAuHAtDAtEtFA
uINAL KzLzMzN!GzPzTzWzYtGAtHAtIuAtKAuHAtLAtMAtNAuGAtOtPAuHAtRAtSAtTAuHAtUuAtVAtZAnOW-FALLING TONE
% FINAL&LONG+ FINALmMID-LEVEL TONE! FINAL$LONG FINALmRISING TONEx FINALyLONG% FINAL
mSANDHI GLOTTAL STOP) FINALtTONEx FINALyLONG% FINALcW PRINTSbDFcIbEACE SYMBOLeHeOCKdNUTSdRcDESTRIAN
cN OVER STAMPED ENVELOPEdCILdGUINdSIVE FACEdTAGRAMcOPLE HUGGINGcR MILLE SIGNeSIGNeTEN THOUSAND SIGN
dCENT SIGNdFORMING ARTSdMANENT PAPER SIGNdPENDICULARn WITH SdSEVERING FACEeON BOWING DEEPLY
hCLIMBINGhDOING CARTWHEELhFROWNINGhIN LOTUS POSITIONkSTEAMY ROOMhRAISING BOTH HANDS IN CELEBRATION
hWITH BALLnLOND HAIRmCROWNmFOLDED HANDSmHEADSCARFmPOUTING FACEgAL COMPUTERePECTIVEcSETA SIGNdO SIGN
cTRI DISHbHAGS-PA DOUBLE HEAD MARKjLETTER ArLTERNATE YArSPIRATED FAqBAqCAsNDRABINDUrHAqDArDArZAqErE
qFAqGArGAqHAqIqJAqKArHAqLAqMAqNArGArNArYAqOqPArHAqQAqRAqSArHArMALL AqTArHArSAsHArTAsHAqUqVOICED HA
vLESS SHAqWAqXAqYAqZArHAjMARK DOUBLE SHADoSHADjSINGLE HEAD MARKkUBJOINED LETTER RA!WA!YA
lPERFIXED LETTER RAdISTOS DISC SIGN ARROWtBEEwHIVEuOOMERANGvWuULLS LEGtCAPTIVEvRPENTRY PLANEvTuHILD
uLUBuOLUMNvMBxINING OBLIQUE STROKEtDOLIUMvVEtEAGLEtFLUTEtGAUNTLETuRATERtHELMETuIDEuORNtLIDvLY
tMANACLESvTTOCKtOX BACKtPAPYRUSuEDESTRIANuLANE TREEvUMED HEADtRAMuOSETTEtSAWuHIELDwPuLINGuMALL AXE
uTRAINERtTATTOOED HEADuIARAuUNNYtVINEtWAVY BANDuOMANcILIPPINE DOUBLE PUNCTUATIONlSINGLE PUNCTUATION
cOENICIAN LETTER AINtLFsBETsDELTsGAMLsHEuTsKAFsLAMDsMEMsNUNsPEsQOFsROSHsSADEtEMKtHINsTAUtETsWAUsYOD
sZAIlNUMBER ONEv HUNDREDsTENtHREEtWENTYuOlWORD SEPARATORdLUSbICKeUP TRUCKcEcGd FACEeNOSEcLCROW SIGN
dE OF POOdLcNATAdCHED FINGERSfING HANDdE DECORATIONeAPPLEdWHEEL STARcSCESdTOLcTCHFORKj WITH TEE TOP
bLACARDeE OF INTEREST SIGNjWORSHIPdNCK CONSTANTp OVER TWO PIdYGROUND SLIDEeING CARD ACE OF CLUBS
uDIAMONDSuHEARTSuSPADESnBACKoLACK JOKERnEIGHT OF CLUBSwDIAMONDSwHEARTSwSPADESnFIVE OF CLUBS
vDIAMONDSvHEARTSvSPADESoOOLpUR OF CLUBSvDIAMONDSvHEARTSvSPADESnJACK OF CLUBSvDIAMONDSvHEARTSvSPADES
nKING OF CLUBSvDIAMONDSvHEARTSvSPADESoNIGHT OF CLUBSxDIAMONDSxHEARTSxSPADESnNINE OF CLUBSvDIAMONDS
vHEARTSvSPADESnQUEEN OF CLUBSwDIAMONDSwHEARTSwSPADESnRED JOKERnSEVEN OF CLUBSwDIAMONDSwHEARTS
wSPADESoIX OF CLUBSuDIAMONDSuHEARTSuSPADESnTEN OF CLUBSuDIAMONDSuHEARTSuSPADESoHREE OF CLUBS
wDIAMONDSwHEARTSwSPADESoRUMP-1u0u1u2u3u4u5u6u7u8u9t2u0u1t3t4t5t6t7t8t9oWO OF CLUBSuDIAMONDSuHEARTS
uSPADESnWHITE JOKERcDcUdNGERdS SIGNj ABOVE EQUALS SIGNkIN LEFT HALF CIRCLEnRIGHT HALF CIRCLE
nTRIANGLEkWITH BLACK TRIANGLEpCIRCUMFLEX ACCENT ABOVEpDOT BELOWpSMALL CIRCLE ABOVEqUBSCRIPT TWO
pTILDE ABOVEvBELOWe-MINUS SIGNdTOf FORM FIVEmOURlTHREEmWObMbOCKET CALCULATORcLICE CAR
kS REVOLVING LIGHThOFFICERcODLEcP DIRECTIONAL FORMATTINGqISOLATEdCORNcRTABLE STEREOcSEIDON
dITION INDICATORdTAL HORNhMARKl FACEeBOXcT OF FOODdABLE WATER SYMBOLeTOdTED PLANTcUCHdLTRY LEG
dND SIGNdRING LIQUIDdTING CAT FACEiFACEcWER ON SYMBOLi-OFF SYMBOLgSLEEP SYMBOLhYMBOLbRAYER BEADS
cECEDESi ABOVE ALMOST EQUAL TOpEQUALS SIGNpNOT ALMOST EQUAL TOtEQUAL TOpSINGLE-LINE EQUALS SIGN
$NOT EQUAL TOjBUT NOT EQUIVALENT TOjOR EQUAL TOpIVALENT TOjUNDER RELATIONdGNANT MANjPERSONjWOMAN
dSCRIPTION TAKEeENTATION FORM FOR VERTICAL COLON+MMA)EM DASH*N DASH*XCLAMATION MARK
)HORIZONTAL ELLIPSIS)IDEOGRAPHIC COMMA^FULL STOP)LEFT ANGLE BRACKET:BLACK LENTICULAR BRACKET
:CORNER BRACKET;URLY BRACKET:DOUBLE ANGLE BRACKET:PARENTHESIS:SQUARE BRACKET:TORTOISE SHELL BRACKET
:WHITE CORNER BRACKET@LENTICULAR BRACKET*OW LINE)QUESTION MARK)RIGHT ANGLE BRACKET
;BLACK LENTICULAR BRACKET;CORNER BRACKET<URLY BRACKET;DOUBLE ANGLE BRACKET;PARENTHESIS
;SQUARE BRACKET;TORTOISE SHELL BRACKET;WHITE CORNER BRACKET^LENTICULAR BRACKET~TICULAR BRAKCET
)SEMICOLON)TWO DOT LEADER)WAVY LOW LINEdTZELdVIOUS PAGEcIMEdNCEgSSeT SCREEN SYMBOLfERh ICON
dVACY MESSAGEfTE USE ONEmTWOl-1m2cOBING CANEdHIBITED SIGNdJECTIVEdPERTY LINEeORTIONkAL TOdSERPINA
bSALTER PAHLAVI FOUR DOTS WITH CROSS)DOTqLETTER ALEPHxBETHxDALETHxGIMELxHEzTHxKAPHxLAMEDHxMEM-QOPH
xNUNxPExSADHEzMEKHyHINxTAWxWAW-AYIN-RESHxYODHxZAYINqNUMBER FOURxONE! HUNDREDxTENyHREEyWENTYzO
qSECTION MARKqTURNED SECTION MARKbU1c2cBLIC ADDRESS LOUDSPEAKERcNCTUATION SPACEgS ELEVATUS MARK
cRPLE HEARTdSEcSHPINcT LITTER IN ITS PLACE SYMBOLaQUADRANT LOWER LEFTpRIGHTjUPPER LEFT
t AND LOWER LEFT AND LOWER RIGHT(RIGHTyUPPER RIGHT AND LOWER LEFT~RIGHTpRIGHTu AND LOWER LEFT
. AND LOWER RIGHTfUPLE INTEGRAL OPERATORkPRIMEdRTER NOTEdTERNION INTEGRAL OPERATOR
cESTION EXCLAMATION MARKjMARKiED EQUAL TOcINCUNXcOTATION MARKaRABBITg FACEcCCOONdING CARhMOTORCYCLE
cDICAL SYMBOL BOTTOMeOf BUTTONfACTIVE SIGNcILWAY CARiTRACKdNeBOWdSED BACK OF HANDhCOMMAhDOT
kTED INTERPOLATION MARKERhFISThHANDl WITH FINGERS SPLAYEDrPART BETWEEN MIDDLE AND RING FINGERS
hINTERPOLATION MARKERhMC SIGNiD SIGNiR SIGNhSQUAREcMcTdIOcZORbECEIPTdORD SEPARATOR
dREATIONAL VEHICLEdYCLED PAPER SYMBOLgING SYMBOL FOR GENERIC MATERIALSvTYPE-1 PLASTICS!2 PLASTICS
!3 PLASTICS!4 PLASTICS!5 PLASTICS!6 PLASTICS!7 PLASTICScD APPLEeGIFT ENVELOPEcFERENCE MARK
cGIONAL INDICATOR SYMBOL LETTER A+B+C+D+E+F+G+H+I+J+K+L+M+N+O+P+Q+R+S+T+U+V+W+X+Y+ZeSTERED SIGN
cJANG CONSONANT SIGN HwNxGwRhLETTER AoBAoCAoDAoGAoHAoJAoKAoLAoMApBAoNApDApGAqGApYAqJAoPAoRAoSAoTA
oWAoYAhSECTION MARKhVIRAMAiOWEL SIGN AItUsEtAtUsIsOsUcLIEVED FACEcMINDER RIBBONcPLACEMENT CHARACTER
cSPONSEdTRICTED LEFT ENTRY-1w2fOOMcTURN LEFThRIGHThSYMBOLcVERSE CHECKER BOARDiINDEX
iLIGHT FOUR POINTED PINWHEEL STARkNE FEEDiSOLIDUSp OPERATORqPRECEDING SUBSETqWITH HORIZONTAL STROKE
iTILDE OPERATOR ABOVE LEFTWARDS ARROW&RIGHTWARDS ARROWhD ANGLEo WITH UNDERBARjCOMMAjDOUBLE PRIME
v QUOTATION MARKqSTROKE NOT SIGNjEMPTY SETjFORKED PARAGRAPHOSjHAND WITH MIDDLE FINGER EXTENDED
jNOT SIGNjPILCROW SIGNkRIMEjQUESTION MARKjRAISED HAND WITH FINGERS SPLAYEDkIGHT ANGLE
kOTATED FLORAL HEART BULLETjSANS-SERIF CAPITAL LkEMICOLONjTHUMBS DOWN SIGNqUP SIGNkILDEo EQUALS
kRIPLE PRIMEjVICTORY HANDdOLVING HEARTSbHINOCEROSbIcAL SIGNcBBONg ARROW DOWN LEFTsRIGHTnLEFT DOWN
sUPnRIGHT DOWNtUPnUP LEFTqRIGHTcCE BALLfCRACKERcFLEcGHT AND LOWER ONE EIGHTH BLOCK
kUPPER ONE EIGHTH BLOCKiGER BUBBLEjLEl BRACKETt WITH DOTmDOTTED SUBSTITUTION MARKER
mSUBSTITUTION MARKERmVARIANT WITH SQUAREmWITH ARCrDOWNWARDS ZIGZAG ARROWhRC GREATER-THAN BRACKET
iROW WITH CIRCLED PLUSrSMALL CIRCLEgBLACK LENTICULAR BRACKETmTORTOISE SHELL BRACKETgCEILING
hORNER BRACKEThURLY BRACKETt LOWER HOOKuMIDDLE PIECEuUPPER HOOKgDOTTED SUBSTITUTION BRACKET
iUBLE ANGLE BRACKEToRROW WITH ROUNDED HEADnPARENTHESISnQUOTATION MARKnWIGGLY FENCEgFISH TAIL
iVE EIGHTHS BLOCKhLOORgHALF BLACK CIRCLErSTARnOCKlFOLDERlMEDIUM SHADElRUNNING MAN
iND TELEPHONE RECEIVERgLOW PARAPHRASE BRACKETgNORMAL FACTOR SEMIDIRECT PRODUCTgONE EIGHTH BLOCK
kQUARTER BLOCKhPEN SQUARED DOThUTER JOINgPARENTHESISr EXTENSIONsLOWER HOOKsUPPER HOOK
gRAISED OMISSION BRACKETgS-SHAPED BAG DELIMITERhEMIDIRECT PRODUCTiVEN EIGHTHS BLOCK
hIDEWAYS U BRACKETiNGLE QUOTATION MARKhPEAKERn WITH ONE SOUND WAVEtTHREE SOUND WAVESjECH BUBBLE
hQUARE BRACKETu EXTENSIONvLOWER CORNERvUPPER CORNERvWITH DOUBLE STROKE!QUILL!STROKE
!TICK IN BOTTOM CORNER,TOP CORNER!UNDERBARhUBSTITUTION BRACKETgTACKhHIRD WHITE RIGHT POINTING INDEX
iOUGHT BUBBLEiREE EIGHTHS BLOCKmQUARTERS BLOCKhORTOISE SHELL BRACKEThRANSPOSITION BRACKETiIANGLE
o ABOVE LEFT TRIANGLEmULAR ONE QUARTER BLOCKgVERTICAL BAR WITH QUILLqOX LINEgWHITE CORNER BRACKET
nURLY BRACKETmLENTICULAR BRACKETmPARENTHESISmSQUARE BRACKETmTORTOISE SHELL BRACKEThIGGLY FENCE
f-FACING ARMENIAN ETERNITY SIGNnFISTnSVASTI SIGNy WITH DOTSgHANDED INTERLACED PENTAGRAM
gPOINTING ANGLE BRACKETpCURVED ANGLE BRACKETpDOUBLE ANGLE QUOTATION MARKpMAGNIFYING GLASS
gSHADED WHITE RIGHTWARDS ARROWhIDE ARC CLOCKWISE ARROWgTO-LEFT EMBEDDINGoISOLATEoMARKoOVERRIDE
fHAND INTERIOR PRODUCTfWARDS ARROWq ABOVE ALMOST EQUAL TOxREVERSE ALMOST EQUAL TO)TILDE OPERATOR
xSHORT LEFTWARDS ARROWxTILDE OPERATORsND UPPER AND LOWER ONE EIGHTH BLOCKrFROM BAR
z TO BLACK DIAMONDrOVER LEFTWARDS ARROWrTHROUGH GREATER-THANzSUPERSETzXsO BARvLACK DIAMOND
rWITH CORNER DOWNWARDSwDOTTED STEMyUBLE VERTICAL STROKEwEQUILATERAL ARROWHEADwHOOK
wLARGE TRIANGLE ARROWHEADxOOPwMEDIUM TRIANGLE ARROWHEADwNOTCHED TAILwPLUS BELOW
wSMALL EQUILATERAL ARROWHEAD%TRIANGLE ARROWHEADxTROKEwTAIL! WITH DOUBLE VERTICAL STROKE
*VERTICAL STROKExIP DOWNWARDS!UPWARDSwVERTICAL STROKEq-TAILlBACK-TILTED SHADOWED WHITE ARROW
mLACK ARROWrCIRCLED WHITE ARROWmOTTOM SHADED WHITE ARROWlCOMPRESSED ARROWlDASHED ARROWmOUBLE ARROW
x FROM BARyWITH STROKE&VERTICAL STROKEx-TAILsDASH ARROWlFINGER-POST ARROW
mRONT-TILTED SHADOWED WHITE ARROWlHANDnRPOON OVER LEFTWARDS HARPOON
tWITH BARB DOWN ABOVE LEFTWARDS HARPOON WITH BARB DOWN,BELOW LONG DASH,FROM BAR,TO BAR+WARDS
&UP ABOVE LEFTWARDS HARPOON WITH BARB UP=ONG DASH<RIGHTWARDS HARPOON WITH BARB DOWN*FROM BAR*TO BAR
)WARDSmEAVY ARROWrCOMPRESSED ARROWlLEFT-SHADED WHITE ARROWlOPEN-HEADED ARROWlPAIRED ARROWS
lQUADRUPLE ARROWlRIGHT-SHADED WHITE ARROWmOCKETlSANS-SERIF ARROWmQUARED ARROWoIGGLE ARROW
lTOP SHADED WHITE ARROWmRIANGLE ARROWHEADt-HEADED ARROW* OVER LEFTWARDS TRIANGLE-HEADED ARROW
+TO BAR+WITH BOLD SHAFT<DOUBLE HORIZONTAL STROKE|VERTICAL STROKE<HEAVY SHAFT<LONG TIP DOWNWARDS
~ UPWARDS<MEDIUM SHAFT<NARROW SHAFT<VERY HEAVY SHAFT$DASHED ARROW$PAIRED ARROWSoPLE ARROW
sDASH ARROWmWO HEADED ARROWo-HEADED ARROW FROM BAR%WITH DOUBLE VERTICAL STROKE+TAIL
; WITH DOUBLE VERTICAL STROKE^VERTICAL STROKE,RIANGLE ARROWHEADS+VERTICAL STROKEwTRIPLE DASH ARROW
lWAVE ARROWmHITE ARROWw FROM WALLxWITHIN TRIANGLE ARROWHEADcNGe ABOVEfBUOYfEQUAL TOfIN EQUAL TO
fOPERATORfPOINTeED PLANETeING BELLcSING DIAGONAL CROSSING FALLING DIAGONALzSOUTH EAST ARROWbLEcIcM
cObOASTED SWEET POTATOcBOT FACEcCKeETcLL OF PAPEReED-UP NEWSPAPERfR COASTERhSKATE
eING ON THE FLOOR LAUGHINGcMAN AS SIGNgCENTURIAL SIGNgDENARIUS SIGNhIMIDIA SEXTULA SIGN
hUPONDIUS SIGNgNUMERAL EIGHTpLEVENoFIFTYt EARLY FORMuTHOUSANDqVEs HUNDREDtTHOUSANDpOURoNINEoONE
r HUNDREDz THOUSANDsTHOUSAND! C DoREVERSED ONE HUNDREDoSEVENpIXr LATE FORMoTENr THOUSANDpHREEpWELVE
qOgQUINARIUS SIGNgSEMUNCIA SIGNiSTERTIUS SIGNiXTANS SIGNkULA SIGNhILIQUA SIGNgUNCIA SIGNcOSTERcSE
eTTEcTATED CAPITAL QiFLORAL HEART BULLETiHEAVY BLACK HEART BULLETiLIGHT FOUR POINTED BLACK CUSP
iWHITE FOUR POINTED CUSPcUND PUSHPINgTARGETfED SYMBOL FOR CAItFUtLUtSHOUvUANGXItXIcWBOATbS
bUBLE SIGNcGBY FOOTBALLcLE-DELAYEDcMI DIGIT EIGHTlFIVEmOURlNINElONElSEVENmIXlTHREEmWO
fFRACTION ONE HALFsQUARTERsTHIRDoTWO THIRDSfNUMBER EIGHT HUNDREDrYmFIFTYoVE HUNDREDnORTYoUR HUNDRED
mNINE HUNDREDqTYmONE HUNDREDmSEVEN HUNDREDrTYnIX HUNDREDpTYmTENnHIRTYoREE HUNDREDnWENTYoO HUNDRED
cNIC ARLAUG SYMBOLgBELGTHOR SYMBOLgCROSS PUNCTUATIONgLETTER AC AoESCoLGIZ EOLHXoNSUZ A
nBERKANAN BEORC BJARKAN BnCoALCoEALCpNoWEORTHnDoAGAZ DAEG DoOTTED-LuNuPnEoARoHWAZ EH EoNGoTH
nFEHU FEOH FE FoRANKS CASKET AC%ESC$EH$IS$OSnGoARoEBO GYFU GpRnHAEGL HpGLAZ HnICELANDIC-YRoNGqWAZ
oORoSAZ IS ISS IoWAZ EOHnJERAN JnKoAUN KrAnLAUKAZ LAGU LOGR LoONG-BRANCH-AR AEzHAGALL HzMADR M
zOSS OzYRnMANNAZ MAN MnNAUDIZ NYD NAUD NnOoEoNoOoPEN-PoS OoTHALAN ETHEL OnPERTHO PEORTH PnQ
nRAIDO RAD REID RnSHpORT-TWIG-AR AyBJARKAN ByHAGALL HyMADR MyNAUD NyOSS OySOL SyTYR TyYR
oIGEL LONG-BRANCH-SOL SoOWILO SoTANnTHURISAZ THURS THORNoIWAZ TIR TYR TnURUZ UR UnVnWoUNJO WYNN WnX
nYoRnZgMULTIPLE PUNCTUATIONgSINGLE PUNCTUATIONgTVIMADUR SYMBOLdNEReING SHIRT WITH SASHcPEE SIGN
cSSIAN ASTROLOGICAL SYMBOL BINOVILE%NOVILE%QUINTILE%SENTAGON%TREDECILE%VIGINTILEaS IN TRIANGLE
bAFETY PINhVESTcGITTARIUScILBOATcKE BOTTLE AND CUPcLT SHAKEReIREdUTING FACE
cMARITAN ABBREVIATION MARKkLETTER ALAFrBAAsITrDALATrFIrGAMANrINsTsYrKAAFrLABATrMIMrNUNrQUFrRISH
rSHANsINGAATrTAAFsITsSAADIYrYUTrZENkMARK DAGESHpEPENTHETIC YUTpINr-ALAFpNEQUDAApOCCLUSION
lODIFIER LETTER EPENTHETIC YUT!I!SHORT AkPUNCTUATION AFSAAQxNGEDyNAAUxRKAANUxTMAAUwBAU
wMELODIC QITSAwNEQUDAAwQITSAwSHIYYAALAAxOF MASHFAATwTURUwZAEFxIQAAkVOWEL SIGN AwAvEvIvLONG A$A!E!I
!UvOwVERLONG A)AvSHORT AwUKUNvUcNDWICHdS-SERIF HEAVY DOUBLE COMMA QUOTATION MARK ORNAMENT
yTURNED COMMA QUOTATION MARK ORNAMENTrLOW DOUBLE COMMA QUOTATION MARK ORNAMENTlINTERROBANG ORNAMENT
cRIcTELLITEj ANTENNAdURNcURASHTRA CONSONANT SIGN HAARUlDANDAmIGIT EIGHTrFIVEsOURrNINErONErSEVENsIX
rTHREEsWOrZEROmOUBLE DANDAlLETTER AtAtItUsBAtHAsCAtHAsDAtDAuHAtHAsEtEsGAtHAsHAsItIsJAtHAsKAtHAsLA
tLAsMAsNAtGAtNAtYAsOtOsPAtHAsRAsSAtHAtSAsTAtHAtTAuHAsUtUsVAtOCALIC L$L!R$RsYAlSIGN ANUSVARA
qCANDRABINDUqVIRAMAsSARGAlVOWEL SIGN AAxIxUwExEwIxIwOxOwUxUwVOCALIC L)L(R)ReOPODcXOPHONEbCALESdRF
cHOOLg SATCHELcIcOOTERdRPIONgUScREENeWDRIVERdIPT CAPITAL BpEpFpHpIpLpMpPpRhLIGATURE ET ORNAMENT
hSMALL EnGnLnOdOLLdUPLEbEALdTcCOND PLACE MEDALdTION SIGNeORcDNAcE-NO-EVIL MONKEYdDLINGcGMENT
hED DIGIT EIGHTqFIVErOURqNINEqONEqSEVENrIXqTHREErWOqZEROcLFIEcMICOLON
eDIRECT PRODUCT WITH BOTTOM CLOSEDeSEXTILEcPARATED SYMBOLcRIOUS FACE WITH SYMBOLS COVERING MOUTH
dVICE MARKcSAME DOTdQUIQUADRATEcT MINUSeTRANSMIT STATEcWING NEEDLEcXTILEbGCbHADOWED WHITE CIRCLE
pLATIN CROSSpSTARdLLOW PAN OF FOODdMROCKdRADA ABBREVIATION SIGNiCONTINUATION SIGNiDANDAjIGIT EIGHT
oFIVEpOURoNINEoONEoSEVENpIXoTHREEpWOoZEROjOUBLE DANDAiEKAMjXTRA SHORT VOWEL MARKiHEADSTROKE
iLETTER AqAqIqUpBAqHApCAqHApDAqDArHAqHApEpGAqHApHApIqIpJAqHApKAqHApLAqLApMApNAqGAqNAqYApOpPAqHApRA
pSAqHAqSApTAqHAqTArHApUqUpVAqOCALIC LyLxRyRpYAiOMiSANDHI MARKjECTION MARK-1v2kPARATORjIGN ANUSVARA
oVAGRAHAnCANDRABINDUnINVERTED CANDRABINDUnJIHVAMULIYAnNUKTAnSIDDHAMnUPADHMANIYAnVIRAMApSARGA
jUTRA MARKiVOWEL MODIFIER MARKoSIGN AAuIuUtEtIuItOtPRISHTHAMATRA EtUuUtVOCALIC L%L$R%ReKdVED ICE
eIAN LETTER ADOqGEqHqIRqRErRAYqSHqWEpBIBpCHURCHpDEADpEARrTqGGqRRpFEEpGAGpHA-HAqUNGpIANqCEqFpJUDGE
pKICKpLOLLpMEASUREqIMEpNUNpOAKqILqNqOZEqRqUTpPEEPpROARpSOqUREpTHEYrIGHqOTpUPpVOWpWOErOLpYEArWpZOO
cEEPcIELDdFT INgOUTdNTO SHRINEdPcOCKED FACE WITH EXPLODING HEADdOTING STARdPPING BAGSjTROLLEY
dRT BACKSLANTED SOUTH ARROWhENT ARROW POINTING DOWNWARDS THEN NORTH EASTgDOWN TACKp WITH OVERBAR
gLEFT TACKgRIGHTWARDS ARROW ABOVE LEFTWARDS ARROWgSLANTED NORTH ARROWgUP TACK
n ABOVE SHORT DOWN TACKoWITH UNDERBARfCAKEfHAND FORMAT CONTINUING OVERLAPrDOWN STEPrLETTER OVERLAP
rUP STEPfSdULDERED OPEN BOXdWERcRIMPdUGcUFFLE PRODUCTcYbIcDDHAM DANDAjOUBLE DANDAiEND OF TEXT MARK
iLETTER AqAqIqLTERNATE UqUpBAqHApCAqHApDAqDArHAqHApEpGAqHApHApIqIpJAqHApKAqHApLApMApNAqGAqNAqYApO
pPAqHApRApSAqHAqSApTAqHArREE-CIRCLE ALTERNATE IqTArHAqWO-CIRCLE ALTERNATE I;IpUqUpVAqOCALIC LyLxRyR
pYAiREPETITION MARK-1y2y3iSECTION MARK DOUBLE RING* WITH RAYSvWITH CIRCLES AND FOUR ENCLOSURES<RAYS
<TWO ENCLOSURES!DOUBLE CRESCENTS!QUADRUPLE CRESCENTS!RAYS AND DOTTED CRESCENTS@DOUBLE CRESCENTS
@TRIPLE CRESCENTS!SEPTUPLE CRESCENTS!TRIDENT AND DOTTED CRESCENTS<U-SHAPED ORNAMENTS&PLE CRESCENTS
kPARATOR BARsDOTjIGN ANUSVARAnCANDRABINDUnNUKTAnSIDDHAMnVIRAMApSARGAiVOWEL SIGN AAuIuLTERNATE U(UuU
tEtIuItOtUuUtVOCALIC R%RdEWAYS BLACK DOWN POINTING INDEXpLEFT POINTING INDEXpRIGHT POINTING INDEX
pUP POINTING INDEXjWHITE DOWN POINTING INDEXpLEFT POINTING INDEXpRIGHT POINTING INDEX
pUP POINTING INDEXcGN OF THE HORNSeWRITING AIR BLOW SMALL ROTATIONSuING OUTqSUCK SMALL ROTATIONS
uING INmBREATH EXHALEtINHALEoUSH BETWEENsMULTIPLEsSINGLEmCHEEKS NEUTRALtPUFFEDtSUCKEDnOLONoMMA
mDREAMY EYEBROWS DOWN NEUTRAL%NEUTRAL DOWN:UP%UP NEUTRALnYNAMIC ARROWHEAD LARGE(SMALL
uEVERY OTHER TIMEuFASTuGRADUALuRELAXEDuSIMULTANEOUS* ALTERNATINGvLOWuTENSEmEARSnXCITEMENT
nYE BLINK MULTIPLEwSINGLEqWINKpBROWS STRAIGHT DOWN(NEUTRAL(UPpGAZE-FLOORPLANE CURVED)STRAIGHT
= ALTERNATING>DOUBLEuWALLPLANE CIRCLING)URVED(STRAIGHT< ALTERNATING=DOUBLEpLASHES DOWNwFLUTTERING
wUPpS CLOSEDrHALF CLOSEDwOPENrOPENrSQUEEZEDrWIDE OPENvNING MOVEMENT
mFACE DIRECTION POSITION NOSE FORWARD TILTING?UP OR DOWN~ DOWN TILTINGnILL MODIFIER-2!3!4!5!6oNGER
nLICK LARGE MULTIPLEySINGLEsSEQUENTIALtMALL MULTIPLEySINGLEoOORPLANE SHOULDER HIP MOVE
nOREHEAD CONTACTvNEUTRALvWRINKLEDnULL STOPmGRASP BETWEENsMULTIPLEsSINGLEmHAIRoND-ANGLEw INDEX
% MIDDLE LITTLE:RING&RING LITTLE> OUT&THUMB, IN.OUTxLITTLE INDEX. THUMB INDEX THUMB~X THUMB OUT(UP
xMIDDLE RING LITTLE? IN@OUTxRING DOWN MIDDLE THUMB INDEX CROSS%LITTLErCIRCLEx INDEX& BENT(HINGE
(MIDDLE: CROSS LITTLE@ED;LITTLE;RING;THUMB(RING LITTLEyLITTLE INDEX)UPyMIDDLE RING LITTLE@ BENT)UP
yRING LITTLEsLAWv FOUR FINGERS CONJOINEDwINDEX THUMB CURVE THUMB INSIDE
wMIDDLE RING LITTLE CONJOINED~INED SIDEwNO THUMBwTHUMB FORWARD%SIDEsUPu FIVE FINGERS SPREAD> OPEN
vINDEX! RING LITTLE$THUMB* OPENvMIDDLE RING LITTLEvNO THUMBvOPENz NO THUMB!THUMB FORWARD*SIDE
vTHUMB FORWARD$SIDEtRLICUEz INDEX RING LITTLE ON!MIDDLE RING LITTLE ON!OPENrFIST
v FOUR FINGERS CONJOINED BENTwHEELwINDEX$ BENT* OVER MIDDLE%CUPPED%HINGED, LOW.MIDDLE UP
_ THUMB SIDE%MIDDLE, BENT= THUMB STRAIGHT.CONJOINED_ CUPPED~UPPED THUMB FORWARD|HINGED
~INGED THUMB SIDE|INDEX BENT|MIDDLE BENT|THUMB FORWARD~HUMB SIDE~HUMB SIDE BENT~HUMB SIDE CONJOINED
:ROSS LITTLE>ED@ THUMB SIDE.HINGED? SPREAD THUMB SIDE.LITTLE.RAISED KNUCKLES:ING= BENT>CONJOINED
.STRAIGHT THUMB BENT.THUMB> ANGLED~D OUT?BENT?CIRCLED@ONJOINED HINGED@UPPED?HINGED@OOKED
.UP SPREAD THUMB FORWARD%RAISED KNUCKLE&ING LITTLE%THUMB ANGLED IN MIDDLE UP?OUT MIDDLE UP,CIRCLE
>D MIDDLE UP.UPPED MIDDLE UP:RLICUE;VE THUMB INSIDE~UNDER,FORWARD INDEX BENT~X STRAIGHT,HOOK
<ED MIDDLE HINGED~E UP,SIDE< BOTH BENT=INDEX BENT|HINGE=THUMB BENT|CONJOINED|DIAGONAL
%UP MIDDLE HINGED_ THUMB CONJOINED~HUMB SIDEwLITTLE BENT&DOWN+ OTHERS CIRCLED,RIPPLE CURVED
?STRAIGHT&INDEX, THUMB&RAISED KNUCKLE&THUMB(OUCHES THUMB&UPwMIDDLE BENT OVER INDEX&DOWN&LITTLE
&RAISED KNUCKLE(ING LITTLE&THUMB ANGLED INDEX UP@OUT INDEX CROSSED~INDEX UP.CIRCLED INDEX HINGED
~EX UP:UPPED INDEX UP.HOOKED INDEX UP.LITTLE&UP) THUMB SIDEwRING DOWN$INDEX$LITTLE$MIDDLE
+ CONJOINED,RAISED KNUCKLES$RAISED KNUCKLE$THUMB$UPwTHUMB$ BETWEEN INDEX MIDDLE~LE STRAIGHT
:MIDDLE RING:RING LITTLE%FORWARD%HEEL%OVER FOUR RAISED KNUCKLES+TWO FINGERS%SIDE BENT+CONJOINED
+DIAGONAL%UNDER FOUR FINGERS,INDEX BENT,LITTLE UP,THREE FINGERS.WO FINGERSsLAT
v BETWEEN PALM FACINGSwFIVE FINGERS SPREAD? BENT@FOUR BENT@HINGED~ED NO THUMB~ED THUMB SIDE
@THUMB FORWARDxOUR FINGERS, BENT.CONJOINED_ SPLIT.HINGEDwHEEL! FIVE FINGERS SPREAD~ BENT~ FOUR BENT
$THUMB SIDEwSPLIT CENTRE, THUMB SIDE| BENT%INDEX THUMB SIDE%LITTLEwTHUMB BENT%FORWARD%SIDErHINGE
w FIVE FINGERS SPREAD OPENyOUR FINGERS CONJOINEDxINDEX% HINGED&MIDDLE LITTLE:RING> CONJOINED
&RING LITTLE&THUMB, LARGE.OPEN.SIDE:MALLxLITTLE& INDEX. THUMB(THUMBxMIDDLE& RING LITTLExNO THUMB
xOPEN$ NO THUMB%THUMB FORWARD,SIDExRING$ DOWN INDEX THUMB HOOK MIDDLExSMALL
xTHUMB BETWEEN MIDDLE RING&SIDE+ TOUCHING INDEXsOOKv CURLICUEwINDEX RING LITTLE IN>OUT>UNDER
wMIDDLE RING LITTLE CONJOINED~INED IN~INED OUT&THUMBwRING THUMBrOVALv FIVE FINGERS SPREADwINDEX
wLITTLE UPwNO THUMBwRING LITTLEwTHUMB FORWARD%SIDEnEADq MOVEMENT CIRCLEz-FLOORPLANE CURVE;STRAIGHT
!WALLPLANE CURVE:STRAIGHT:TILTrRIMmLIMB COMBINATIONrLENGTH-1y2y3y4y5y6y7oP LOWER OVER UPPER
qUPPER OVER LOWERpS PRESSED TOGETHERnOCATION DEPTHvHEAD NECKxIGHTvLIMBS DIGITSvTORSOvWIDTH
u-FLOORPLANE SPACEvWALLPLANE SPACEmMOUTH CLOSED CONTACTzFORWARDzNEUTRALtORNERSsFROWNx OPENyWRINKLED
sKISSw FORWARDxWRINKLEDsOPEN CIRCLExFORWARDxOVAL$ WRINKLED%YAWNxRECTANGLE* WRINKLED+YAWNxWRINKLED
sSMILEx OPENyWRINKLEDsTENSEx FORWARDySUCKEDsWRINKLES DOUBLE$SINGLEoVEMENT-DIAGONAL AWAY LARGE>ST
.MEDIUM.SMALL(BETWEEN AWAY LARGE~GEST^MEDIUM^SMALL<TOWARDS LARGE~LARGEST~MEDIUM~SMALL(TOWARDS LARGE
^ST<MEDIUM<SMALLvFLOORPLANE ARM CIRCLE HITTING WALL LARGE DOUBLE~TING WALL LARGE SINGLE
~TING WALL MEDIUM DOUBLE~TING WALL MEDIUM SINGLE~TING WALL SMALL DOUBLE~TING WALL SMALL SINGLE*BEND
+OX LARGE:MEDIUM:SMALL*CHECK+ORNER LARGE=MEDIUM=SMALL+ROSS+URVE COMBINED<HITTING CEILING LARGE
~CEILING SMALL~FLOOR LARGE~FLOOR SMALL<LARGE^ST<MEDIUM<SMALL*DOUBLE ALTERNATING~TING WRIST FLEX
=STRAIGHT=WRIST FLEX*FINGER CIRCLES HITTING WALL DOUBLE~ HITTING WALL SINGLE>ONTACT
*HUMP HITTING CEILING LARGE DOUBLE~EILING LARGE TRIPLE~EILING SMALL DOUBLE~EILING SMALL TRIPLE
|FLOOR LARGE DOUBLE~LOOR SMALL DOUBLE~LOOR TRIPLE LARGE TRIPLE~LOOR TRIPLE SMALL TRIPLE;SMALL*JAW
*LOOP HITTING CEILING LARGE DOUBLE~EILING LARGE SINGLE~EILING SMALL DOUBLE~EILING SMALL SINGLE
|FLOOR LARGE DOUBLE~LOOR LARGE SINGLE~LOOR SMALL DOUBLE~LOOR SMALL SINGLE;SMALL*PEAKS LARGE<MEDIUM
<SMALL*SHAKING PARALLEL+INGLE STRAIGHT LARGE~T LARGEST~T MEDIUM~T SMALL=WRIST FLEX
*TRIPLE ALTERNATING MOVEMENT~TING WRIST FLEX=STRAIGHT MOVEMENT=WRIST FLEX
*WAVE HITTING CEILING LARGE~EILING SMALL|FLOOR LARGE~LOOR SMALL;LARGE;SMALL<NAKE
+RIST CIRCLE HITTING WALL DOUBLE~ITTING WALL SINGLE*ZIGZAG LARGE=MEDIUM=SMALLvHINGE DOWN SEQUENTIAL
$SIDE TO SIDE SCISSORS$UP DOWN ALTERNATING LARGE~ SMALL.LARGE.SMALL(SEQUENTIAL
vWALLPLANE ARM CIRCLE MEDIUM DOUBLE~UM SINGLE@SMALL DOUBLE~L SINGLE)BEND LARGE:MEDIUM:SMALL
*OX LARGE.MEDIUM.SMALL)CHECK LARGE;MEDIUM;SMALL*ORNER LARGE<MEDIUM<ROTATION<SMALL*ROSS
*URVE HALF-CIRCLE LARGE~LE LARGEST~LE MEDIUM~LE SMALL<ITTING CHEST|FRONT WALL;QUARTER LARGE~ARGEST
|MEDIUM|SMALL;THEN STRAIGHT=REE-QUARTER CIRCLE MEDIUM~RTER CIRCLE SMALL:D CROSS MEDIUM_SMALL
)DOUBLE ALTERNATING~ING WRIST FLEX<STRAIGHT<WRIST FLEX)FINGER CIRCLES DOUBLE~SINGLE=ONTACT
)HUMP HITTING CHEST_FRONT WALL:LARGE:MEDIUM:SMALL)JAW)LOOP HITTING CHEST_FRONT WALL:LARGE:MEDIUM
:SMALL? DOUBLE)PEAKS LARGE;MEDIUM;SMALL)SHAKING*INGLE STRAIGHT LARGE~ LARGEST~ MEDIUM~ SMALL
<WRIST FLEX)TRIPLE ALTERNATING~ING WRIST FLEX<STRAIGHT MOVEMENT<WRIST FLEX)WAVE CURVE DOUBLE LARGE
~LE MEDIUM~LE SMALL@TRIPLE LARGE~LE MEDIUM~LE SMALL:DIAGONAL PATH LARGE~ATH MEDIUM~ATH SMALL
:HITTING CHEST_FRONT WALL*RIST CIRCLE FRONT DOUBLE~ONT SINGLE)ZIGZAG LARGE<MEDIUM<SMALLmNECK
nOSE CONTACTrNEUTRALrWIGGLESsRINKLESmPARENTHESISmROTATION MODIFIER-10)1)2)3)4)5)6(2(3(4(5(6(7(8(9
u-FLOORPLANE ALTERNATING^ HITTING CEILING~TTING FLOOR*DOUBLE< HITTING CEILING~ FLOOR*SINGLE
< HITTING CEILING~ FLOORvWALLPLANE ALTERNATE=ING HITTING CHEST~TING FRONT WALL)DOUBLE
; HITTING CHEST~FRONT WALL)SINGLE; HITTING CHEST~FRONT WALLnUB BETWEENqMULTIPLEqSINGLEmSEMICOLON
nHOULDER HIP POSITIONSzSPINEvTILTING FROM WAISTnQUEEZE FLICK ALTERNATINGuLARGE MULTIPLE!SINGLE
uSEQUENTIALvMALL MULTIPLE!SINGLEnTRIKE BETWEENtMULTIPLEtSINGLEnURFACE BETWEENuSYMBOLSmTEETH
r BITE LIPSsMOVEMENTsON LIPSz MOVEMENTvTONGUE$ MOVEMENToNSE CHEEKS HIGHzLOWzMIDDLE
nONGUE CENTRE INSIDE MOUTH!STICKING OUTtINSIDE MOUTH RELAXEDtLICKING LIPStMOVES AGAINST CHEEK
tSTICKING OUT FARtTIP BETWEEN LIPSxTOUCHING INSIDE MOUTHoRSO-FLOORPLANE TWISTING
sWALLPLANE CURVED BEND%STRAIGHT STRETCHoUCH BETWEENsMULTIPLEsSINGLE
nRAVEL-FLOORPLANE ROTATION-FLOORPLANE ALTERNATING~ANE DOUBLE~ANE SINGLE=WALLPLANE ALTERNATING
~NE DOUBLE~NE SINGLE(SHAKINGtWALLPLANE ARM SPIRAL DOUBLE>SINGLE>TRIPLE
&ROTATION-FLOORPLANE ALTERNATING~NE DOUBLE~NE SINGLE<WALLPLANE ALTERNATING~E DOUBLE~E SINGLE
&SHAKINGmUPPER BODY TILTING FROM HIP JOINTSmWALLPLANE SHOULDER HIP MOVEcLHOUETTE OF JAPAN
cMILAR ABOVE GREATER-THAN ABOVE EQUALS SIGNoLESS-THAN ABOVE EQUALS SIGNiMINUS SIMILAR
iOR GREATER-THANlLESS-THANcNE WAVEdGLE CHARACTER INTRODUCERhGRAPHIC CHARACTER INTRODUCER
hHIGH-REVERSED-9 QUOTATION MARKhLEFT-POINTING ANGLE QUOTATION MARKiOW-9 QUOTATION MARK
hRIGHT-POINTING ANGLE QUOTATION MARKhSHIFT THREEoWOg-SHIFT-2n3dHALA ARCHAIC DIGIT EIGHTwFIVExOUR
wNINEwONEwSEVENxIXwTHREExWOqNUMBER EIGHTYxFIFTYyORTYxNINETYxONE HUNDRED$THOUSANDxSEVENTYyIXTYxTEN
yHIRTYyWENTYiLETTER AAYANNAqEEYANNArYANNAqIYANNAqLPAPRAANA BAYANNA!CAYANNA!DAYANNA$DAYANNA!GAYANNA
!JAYANNA!KAYANNA!PAYANNA!TAYANNA$TAYANNAqMBA BAYANNAqUYANNAqYANNApDANTAJA LAYANNAxNAYANNAxSAYANNA
pEEYANNAqYANNApFAYANNApHAYANNApIIYANNAqLUUYANNAsYANNAqRUUYANNAsYANNAqYANNApKANTAJA NAASIKYAYA
pMAHAAPRAANA BAYANNA$CAYANNA$DAYANNA%DAYANNA$GAYANNA$JAYANNA$KAYANNA$PAYANNA$TAYANNA%TAYANNArYANNA
qUURDHAJA LAYANNAzNAYANNAzSAYANNApOOYANNAqYANNApRAYANNApSANYAKA DAYANNAyDAYANNAxGAYANNAxJAYANNA
pTAALUJA NAASIKYAYAxSANYOOGA NAAKSIKYAYAzYANNApUUYANNAqYANNApVAYANNApYAYANNAjITH DIGIT EIGHTtFIVE
uOURtNINEtONEtSEVENuIXtTHREEuWOtZEROiPUNCTUATION KUNDDALIYAiSIGN AL-LAKUNAoNUSVARAYAnCANDRABINDU
nVISARGAYAiVOWEL SIGN AELA-PILLAtDIGA AEDA-PILLAyGAETTA-PILLA!YANUKITTAyIS-PILLAyKOMBUVAyPAA-PILLA
tGAETTA-PILLAvYANUKITTAtKETTI AEDA-PILLAzIS-PILLAzPAA-PILLAuOMBU DEKAyVA! HAA AELA-PILLA
)DIGA AELA-PILLA)GAYANUKITTAcX PETALLED BLACK AND WHITE FLORETTEfOINTED BLACK STARmPINWHEEL STAR
mSTAR WITH MIDDLE DOTd-PER-EM SPACEdTEEN POINTED ASTERISKbKATEBOARDcI AND SKI BOOTdERcULL
f AND CROSSBONESdNKbLANTED EQUAL TO OR GREATER-THAN* WITH DOT INSIDEuLESS-THAN& WITH DOT INSIDE
iNORTH ARROW WITH HOOKED HEAD$RIZONTAL TAILdVONIC ASTERISKcEDdEPING ACCOMMODATIONjFACEjSYMBOL
fY FACEdUTH OR SPYcICE OF PIZZAdGHTLY FROWNING FACEjSMILING FACEcOPEeING LARGE ANDoORdT MACHINEeH
bMALL AIRPLANEhMPERSANDhSTERISKgBLUE DIAMONDgCOLONiMMAkERCIAL ATiNTAINS AS MEMBERpWITH OVERBAR
uVERTICAL BAR AT END OF HORIZONTAL STROKEgDOLLAR SIGNgELEMENT OFq WITH OVERBAR
wVERTICAL BAR AT END OF HORIZONTAL STROKEhM DASHhQUALS SIGNhXCLAMATION MARKgFULL STOP
gGREATER-THAN SIGNgHYPHEN-MINUSgIDEOGRAPHIC COMMAgLEFT CURLY BRACKETlPARENTHESIS
lTORTOISE SHELL BRACKETiSS-THAN SIGNgNUMBER SIGNgORANGE DIAMONDgPERCENT SIGNhLUS SIGNgQUESTION MARK
gREVERSE SOLIDUShIGHT CURLY BRACKETmPARENTHESISmTORTOISE SHELL BRACKEThOMAN NUMERAL EIGHTvLEVEN
uFIFTYwVEy HUNDREDvOURuNINEuONEx HUNDREDyTHOUSANDuSEVENvIXuTENvHREEvWELVEwOgSEMICOLONgTILDE
hWO DOTS OVER ONE DOT PUNCTUATIONgVEE WITH UNDERBARfER THANm OR EQUAL TOdSH PRODUCTcILE
eING CAT FACE WITH HEART-SHAPED EYESwOPEN MOUTHiFACE WITH HALOtEART-SHAPED EYEStORNSsOPEN MOUTH
% AND COLD SWEAT+SMILING EYES+TIGHTLY-CLOSED EYESsSMILING EYES( AND HAND COVERING MOUTH
.THREE HEARTStUNGLASSESsTEARdRKING FACEcOKING SYMBOLbNAILdKEcEEZING FACEcOW CAPPED MOUNTAINeBOARDER
eFLAKEeMANh WITHOUT SNOWbOcCCER BALLdKScFT HYPHENfICE CREAMfSHELL FLOPPY DISKeBALL
eWARE-FUNCTION SYMBOLcGDIAN COMBINING CURVE ABOVEyBELOWsDOT ABOVEwBELOWsHOOK ABOVExBELOW
sLONG HOOK BELOWsRESH BELOWsSTROKE BELOWsTWO DOTS ABOVE$BELOWiINDEPENDENT SHINiLETTER ALEPHqYIN
pBETHpFETHpGIMELpHErTHpKAPHpLAMEDHqESHpMEMpNUNpPEpRESH-AYINpSADHErMEKHqHINpTAWpWAWpYODHpZAYIN
iNUMBER ONEs HUNDREDpTENqWENTYiPUNCTUATION CIRCLE WITH DOTuHALF CIRCLE WITH DOT
uTWO CIRCLES WITH DOTSyVERTICAL BARS; WITH DOTScHcLID QUILT SQUARE ORNAMENT$ IN BLACK SQUAREfUS
h WITH OVERBARcM SIGNcON WITH RIGHTWARDS ARROW ABOVEcRA SOMPENG DIGIT EIGHTtFIVEuOURtNINEtONEtSEVEN
uIXtTHREEuWOtZEROnLETTER AHuBAHuCAHuDAHuEEHvHuGAHuHAHuIHuJAHuKAHuLAHuMAEwHuNAHvGAHvYAHuOHuPAHuRAH
uSAHuTAHuUHuVAHuYAHcScUND RECORDING COPYRIGHTdTH EAST ARROWq AND SOUTH WEST ARROW
rCROSSING NORTH EAST ARROWrTO CORNERrWITH HOOKlBLACK ARROWlDOUBLE ARROWlPOINTING BUDuLEAFuVINE LEAF
lSANS-SERIF ARROWlTRIANGLE-HEADED ARROW* TO BARlWHITE ARROWgWEST ARROWq AND NORTH WEST ARROW
rWITH HOOKlBLACK ARROWlDOUBLE ARROWlPOINTING BUDuLEAFuVINE LEAFlSANS-SERIF ARROW
lTRIANGLE-HEADED ARROW* TO BARlWHITE ARROWcYOMBO CLUSTER-INITIAL LETTER LA)RA)SA*HA
iFINAL CONSONANT SIGN -A&B&D&G&K&L&M&N(G&R&S(HiGEMINATION MARKiHEAD MARK WITH MOON AND SUN
. AND FLAME>TRIPLE FLAMEiLETTER -ApApBAqHApCAqHApDAqDArHAqHAqZApGAqHApHApJAqHApKAqHAqSSApLApMApNA
qGAqNAqYApPAqHApRApSAqHAqSApTAqHAqSArHAqTArHApVApYApZAqHAiMARK DOUBLE SHADnPLUTAnSHADnTSHEG
iSIGN ANUSVARAnJIHVAMULIYAnUPADHMANIYAnVISARGAjUBJOINERiTERMINAL MARK-1w2iVOWEL LENGTH MARKoSIGN AI
uUtEtItOuEtUuEtVOCALIC L$RbPcAdCEdGHETTIdRKLEhSgING HEARTcEAK-NO-EVIL MONKEYfER
h WITH CANCELLATION STROKEnONE SOUND WAVEnTHREE SOUND WAVESfING HEAD IN SILHOUETTEdECH BALLOON
eDBOATdSMILO SIGNcHERICAL ANGLEp OPENING LEFTyUPcIDERg WEBdRAL CALENDAR PADhNOTE PADhSHELL
cLASHING SWEAT SYMBOLcONGEdOL OF THREADeNdRTS MEDALdUTING WHALEbQUARE A OVER MiARUiMiNPEAiPAATO
iRUHUAiUhBAARERUjRiEETAiIRUiORUTOiQiUSSYERUhC OVER KGiALjPiCiDiMj CUBEDkSQUAREDiOjRPORATIONiUPhDA
jASUiBiESIiJiLiMj CUBEDkSQUAREDiORUhEEKAAiRA NAME HEISEIqMEIZIqREIWAqSYOUWAqTAISYOUjGiSUKUUDOiVhFM
iOOTjUR CORNERShGALjNMAjRONiBiHZiIGAjNIIjRUDAAiPAiURAMUnTONiYhHAjITUiEKUTAARUjRUTUiGiIRAGANA HOKA
iONjONkRUiPjAiUARADDOjIITOjRANiZhIMAGE OFp OR EQUAL TOtNOT EQUAL TOiNjINGUjTIiUhK OHMiAjIRIjRATTO
kORIIiBiCALiEESUiGiHZiIROlGURAMUlMEETORUlWATTOiKiLiMj CAPITALlUBEDkSQUAREDiOOPOjRUNAiPAiTiUROONE
kUZEIROiViWiYURIIhLEFT OPEN BOX OPERATORiMiNiOGjZENGEiXhM CUBEDjOHMkVER Sp SQUAREDjSQUAREDiAjHHA
jIKUROkRUjNSYONjRUKUiBj SMALLiEETORUjGAlTONiGiHZiIKURONjLjRIlBAARUiLiMj CUBEDkSQUAREDiOLiPAiSiU AkF
kGkLkMkSkVkWiVj MEGAiWj MEGAhNAjNOiFiMiOTTOiSiViWhONSUiOMUiRIGINAL OFs OR EQUAL TOwNOT EQUAL TOiV
hPAj AMPSjASENTOkTUiCiEEZIjNIHIkSUjSOiFiHiIASUTORUjKOkURUiMiOINTOjNDOjSITION INDICATORiPMiRiSiViW
hRADk OVER Sr SQUAREDiEMUjNTOGENiIGHT OPEN BOX OPERATORjRAjTTORUiOOTiUPIIjUBURUhSAIKURUjNTIIMUiENTI
lOiIRINGUiRiVhTARGETiHZiONhUONhV OVER MhWATTOiBiITH BOTTOM HALF BLACKmCONTOURED OUTLINE
mDIAGONAL CROSSHATCH FILLmHORIZONTAL FILLmLEFT HALF BLACKnOWER LEFT DIAGONAL HALF BLACK
sRIGHT DIAGONAL HALF BLACKmORTHOGONAL CROSSHATCH FILLmRIGHT HALF BLACKmTOP HALF BLACK
mUPPER LEFT DIAGONAL HALF BLACKxTO LOWER RIGHT FILLsRIGHT DIAGONAL HALF BLACKyTO LOWER LEFT FILL
mVERTICAL FILLhYAADOkRUiUANgD ASTERISKiCJK UNIFIED IDEOGRAPH-4E00+9*2D*8C*A4(518D)21D*4D*72)3CC*F3
)408*39)5B6)8F0)91A*29)B57)DE6)F8C(624B*53*95)307*55)599*B0)620)708+9)E80)F14(7121)51F*33)981)A7A
)D42(89E3)CA9)D70(904A)14DjLjOOLiDOT OPERATORiEIGHT KiFALLING DIAGONAL SLASHjIVE POINT ONE
jOUR DOT PUNCTUATIONnKjREEiHCjDRjI-RESjViIDiKATAKANA DErKOKOrSAjEYiLATIN CAPITAL LETTER A&B&C&D&E&F
&G&H&I&J&K&L&M&N&O&P&Q&R&S&T&U&V&W&X&Y&ZoSMALL LETTER DjOGICAL ANDqORkSSLESSiMINUSjViNEWjGiOK
jNE HUNDRED TWENTY PiPLUSjPViRISING DIAGONAL SLASHiSALTIREjDjECOND SCREENkVEN POINT ONEjHVjIXTY P
jMALL CIRCLEjOSjQUAREjSiTHREE DjIMESjWENTY-TWO POINT TWOkO KiUHDjP WITH EXCLAMATION MARKiVODjSiWC
eT BLACK RIGHTWARDS ARROWdIDbS2c3cAbTcADIUMdFF OF AESCULAPIUSjHERMESdMPED ENVELOPEdNDING PERSON
dR AND CRESCENTfEQUALSfOF DAVIDgPERATORfWITH LEFT HALF BLACKkRIGHT HALF BLACKeT OF GUARDED AREA
jHEADINGjPROTECTED AREAjSELECTED AREAkTRINGjTEXTdTIONeUE OF LIBERTYcEAM LOCOMOTIVEfING BOWL
dNOGRAPHIC FULL STOPdTHOSCOPEcICK FIGUREm LEANING LEFTvRIGHTnWITH ARMS RAISEDsDRESScOCK CHART
dPWATCHcRAIGHT RULERiNESSeWBERRYdESS OUTLINED WHITE STARdICTLY EQUIVALENT TOeNG TERMINATORcS
cUDIO MICROPHONEdFFED FLATBREADdPAcXbUBdSCRIPT EIGHTlQUALS SIGNkFIVElOURkLEFT PARENTHESISkMINUS
kNINEkONEkPLUS SIGNkRIGHT PARENTHESISkSEVENlIXkTHREElWOkZEROeET ABOVE RIGHTWARDS ARROWnSUBSET
pPERSEThOFj ABOVE ALMOST EQUAL TOqEQUALS SIGNqNOT EQUAL TOqTILDE OPERATORkOR EQUAL TO
v WITH DOT ABOVEkWITH NOT EQUAL TOhWITH DOTmMULTIPLICATION SIGN BELOWmPLUS SIGN BELOWeTITUTEcCCEEDS
i ABOVE ALMOST EQUAL TOpEQUALS SIGNpNOT ALMOST EQUAL TOtEQUAL TOpSINGLE-LINE EQUALS SIGN
$NOT EQUAL TOjBUT NOT EQUIVALENT TOjOR EQUAL TOpIVALENT TOjUNDER RELATIONcMMATION BOTTOMkTOP
kWITH INTEGRALcNd BEHIND CLOUDeWITH FACEdDANESE AVAGRAHAkCONSONANT SIGN PAMINGKAL$NYAKRA&IKU
$SANGAN MA,WAkDIGIT EIGHTqFIVErOURqNINEqONEqSEVENrIXqTHREErWOqZEROkLETTER AsErBAsHArCArDArEsUrFA
sINAL KxMrGArHArIrJArKAsHArLAsEUrMArNAsGAsYArOrPArQArRAsEUrSAsYArTArUrVArWArXArYArZA
kPUNCTUATION BINDU BA SATANGA%CAKRA%DA SATANGA%KA SATANGA%LEU SATANGA%PANGLONG&URNAMA%SURYA
kSIGN PAMAAEHrNGLAYARtWISADsYECEKpVIRAMAkVOWEL SIGN PAMEPETxNAELAENGyEULEUNGyGHULUyOLONGyYUKU
dFLOWERdRISEh OVER MOUNTAINSdSET OVER BUILDINGScPERHEROfSCRIPT EIGHTnQUALS SIGNmFIVEnOUR
mLATIN SMALL LETTER I)NnEFT PARENTHESISmMINUSmNINEmONEmPLUS SIGNmRIGHT PARENTHESISmSEVENnIXmTHREE
nWOmZEROgET ABOVE LEFTWARDS ARROWpSUBSETrPERSETjBESIDE AND JOINED BY DASH WITH SUBSETqSUBSETjOF
l ABOVE ALMOST EQUAL TOsEQUALS SIGNsNOT EQUAL TOsTILDE OPERATORmOR EQUAL TOx WITH DOT ABOVE
mWITH NOT EQUAL TOjPRECEDING SOLIDUSjWITH DOToMULTIPLICATION SIGN BELOWoPLUS SIGN BELOWfVILLAIN
cRFACE INTEGRALeERcSHIdPENSION RAILWAYbWANdSH AMPERSAND ORNAMENTcIMMERcUNG DASH
bYLOTI NAGRI LETTER AuBHOvOuCHOvOuDDHOwOvHOvOuEuGHOvOuHOuIuJHOvOuKHOvOuLOuMOuNOuOuPHOvOuROvROuSO
uTHOvOvTHOwOuUnPOETRY MARK-1z2z3z4nSIGN ALTERNATE HASANTAtNUSVARAsDVISVARAsHASANTAnVOWEL SIGN AyEyI
yOOyUcMBOL FOR ACKNOWLEDGElBACKSPACEmELLlCANCELnRRIAGE RETURNlDATA LINK ESCAPEmELETEr FORM TWO
nVICE CONTROL FOUR!ONE!THREE$WOlEND OF MEDIUMsTEXTtRANSMISSION( BLOCKnQUIRYmSCAPElFILE SEPARATOR
mORM FEEDlGROUP SEPARATORlHORIZONTAL TABULATIONlLINE FEEDlMARKS CHAPTERlNEGATIVE ACKNOWLEDGEnWLINE
mULLlRECORD SEPARATORlSAMARITAN SOURCEmHIFT INrOUTmPACEmTART OF HEADINGuTEXTmUBSTITUTEv FORM TWO
mYNCHRONOUS IDLElTYPE A ELECTRONICSlUNIT SEPARATORlVERTICAL TABULATIONdMETRYcNdAGOGUEdCHRONOUS IDLE
cRIAC ABBREVIATION MARKhBARREKHhCOLON SKEWED LEFTuRIGHTjNTRACTIONhDOTTED ZLAMA ANGULARuHORIZONTAL
hEND OF PARAGRAPHiSASA ABOVEnBELOWhFEMININE DOThHARKLEAN ASTERISCUSqMETOBELUSqOBELUSiBASA ABOVE
nBELOWm-ESASA DOTTEDiORIZONTAL COLONhLETTER ALAPHoBETHoDALATHpOTLESS DALATH RISHoEoFINAL SEMKATH
oGAMALt GARSHUNIoHEqTHoKAPHoLAMADHoMALAYALAM BHAyJAyLLA!LAyNGAzNA!NAzYAyRAySSAyTTApIMoNUNoPE
qRSIAN BHETHwDHALATHwGHAMALoQAPHoREVERSED PEpISHoSADHEpEMKATHpHINpOGDIAN FEwKHAPHwZHAIN
pUPERSCRIPT ALAPHoTAWpETHs GARSHUNIoWAWoYUDHs HEoZAINhMUSIChOBLIQUE LINE ABOVEuBELOWhPTHAHA ABOVE
oBELOWoDOTTEDhQUSHSHAYAhRBASA ABOVEnBELOWiUKKAKHAiWAHAhSUBLINEAR COLONw SKEWED LEFT(RIGHTrFULL STOP
jPRALINEAR COLONy SKEWED LEFTtFULL STOPhTHREE DOTS ABOVEsBELOWiWO VERTICAL DOTS ABOVEzBELOW
hZQAPHA ABOVEoBELOWoDOTTEDeNGEaT-REXcSHIRTbABdLE TENNIS PADDLE AND BALLcCOcG AMPERSANDfPOSTROPHE
fSTERISKeCIRCUMFLEX ACCENTfOLONgMMAiERCIAL ATeDIGIT EIGHTkFIVElOURkNINEkONEkSEVENlIXkTHREElWOkZERO
fOLLAR SIGNeEQUALS SIGNfXCLAMATION MARKeFULL STOPeGRAVE ACCENTgEATER-THAN SIGNeHYPHEN-MINUS
eLATIN CAPITAL LETTER AzBzCzDzEzFzGzHzIzJzKzLzMzNzOzPzQzRzSzTzUzVzWzXzYzZkSMALL LETTER AxBxCxDxExF
xGxHxIxJxKxLxMxNxOxPxQxRxSxTxUxVxWxXxYxZfEFT CURLY BRACKETjPARENTHESISjSQUARE BRACKETgSS-THAN SIGN
fOW LINEeNUMBER SIGNePERCENT SIGNfLUS SIGNeQUESTION MARKgOTATION MARKeREVERSE SOLIDUS
fIGHT CURLY BRACKETkPARENTHESISkSQUARE BRACKETeSEMICOLONfOLIDUSfPACEeTILDEeVERTICAL LINE
dALOG LETTER AqRCHAIC RApBApDApGApHApIpKApLApMApNAqGApPApRApSApTApUpWApYAiSIGN PAMUDPODnVIRAMA
iVOWEL SIGN ItUdBANWA LETTER AqBAqDAqGAqIqKAqLAqMAqNArGAqPAqSAqTAqUqWAqYAjVOWEL SIGN IuU
cI LE LETTER ApIpUEoEpEpHoFAoHAoIoKApHAoLAoMAoNApGAoOpOoPApHAoQAoSAoTApHApONE-2t3t4t5t6pSAqHAoUpE
oVAoXAoYAeTHAM COMBINING CRYPTOGRAMMIC DOTlNSONANT SIGN BAyFINAL NGAyHIGH RATHA OR LOW PA
yLA TANG LAIzOW PAyMAzEDIAL LA)RAySAjHORA DIGIT EIGHTuFIVEvOURuNINEuONEuSEVENvIXuTHREEvWOuZERO
jLETTER AqBAqDAqEEqGREAT SAqHIGH CAwHAvFAvHAvKAwHAwXAvPAwHAvRATHAvSAwHAwSAvTAwHAvYAqIrIqLAsErLA
rOW CAvHAuFAuHAuKAvHAvXAuPAvHAuRATHAuSAuTAvHAuYArUEqMAqNArGArYAqOOqRAsNAsTArUEqUrUqWAjSIGN CAANG
oDOKMAIoHANGpOYoKAANsKUUpEOWpHUEN TONE-3z4z5t-LUE KARANoMAI KANGw LAIsSAMsYAMOKoRA HAAM
pEVERSED ROTATED RANAoSAKOTqTKAANvKUUqWANoTONE-1t2oWIANGtWAAKjTHAM DIGIT EIGHTuFIVEvOURuNINEuONE
uSEVENvIXuTHREEvWOuZEROjVOWEL SIGN AvAvEvIuEuIvIuMAI SATuOvA ABOVExBELOWvOvYuTALL AAvHAM AIuUvEvUwE
eVIET LETTER HIGH BOvCHOwOvDOvFOvGOvHOvKHHOxOwOvLOvMOvNGOwOwYOvOvPHOwOvROvSOvTHOwOvVOvYOqLOW BOuCHO
vOuDOuFOuGOuHOuKHHOwOvOuLOuMOuNGOvOvYOuOuPHOvOuROuSOuTHOvOuVOuYOjMAI KANGoHITjSYMBOL HO HOIqKOI KOI
sNqNUENGqSAMjTONE MAI EKsNUENGsSONGsTHOjVOWEL AAqMqNqUEqYpEpIqApOpUqAqErAcKEOUT BOX
dRI ABBREVIATION SIGNgDIGIT EIGHTmFIVEnOURmNINEmONEmSEVENnIXmTHREEnWOmZEROgLETTER AoAoIoRCHAIC KHA
oUnBAoHAnCAoHAnDAoDApHAoHAnEnGAoHAnHAnIoInJAoHAnKAoHAnLAnMAnNAoGAoNAoYAnOnPAoHAnRAoRAnSAoHAnTAoHA
oTApHAnUoUnVAnYAgSIGN ANUSVARAlNUKTAlVIRAMAnSARGAgVOWEL SIGN AAsIsUrErIsIrOrUsUcLLY MARK FIVElONE
cMALEdIL AND ODD SIGNhS ABOVE SIGNhU LENGTH MARKgCREDIT SIGNhURRENT SIGNgDAY SIGNhEBIT SIGN
hIGIT EIGHTmFIVEnOURmNINEmONEmSEVENnIXmTHREEnWOmZEROhRY CULTIVATION SIGN
gFRACTION DOWNSCALING FACTOR KIIZHpONE EIGHTHyIETHtFIFTHuORTIETHtHALF-1y2tONE-HUNDRED-AND-SIXTIETH
tQUARTERtSIXTEENTH-1&2xY-FOURTHtTENTHuHIRTY-SECONDvREE-HUNDRED-AND-TWENTIETHuWENTIETH
pTHREE EIGHTIETHSvQUARTERSvSIXTEENTHSzY-FOURTHSvTWENTIETHSgIN POSSESSION SIGNgLAND SIGNhETTER AoAoI
oUnCAnEoEnHAnIoInJAnKAnLAoLApLAnMAnNAoGAoNApNAoYAnOoOnPAnRAoRAnSAoHAoSAnTAoTAnUoUnVAnYAgMONTH SIGN
gNUMBER ONE HUNDREDrTHOUSANDnSIGNnTENgOMgPUNCTUATION END OF TEXTgRUPEE SIGNgSALT PAN SIGN
hIGN AAZHAAKKUmNUSVARAlCEVITUlKAACUmURUNInZHIlMUKKURUNInTHALIYAnUVUZHAKKUlNELlPAARAMnNAMnTHAKKUmON
lUZHAKKUlVAKAIYARAAnRAAKANmELImIRAMAnSARGAhPENT SIGNhTARTING FROM SIGNgTOTAL SIGN
hRADITIONAL CREDIT SIGNsNUMBER SIGNgVOWEL SIGN AAsIsUrEsErIsIrOsOrUsUgWET CULTIVATION SIGN
gYEAR SIGNcNABATA TREEdGERINEeSA DIGIT EIGHTnFIVEoOURnNINEnONEnSEVENoIXnTHREEoWOnZEROhLETTER ACpQ
pWCqQqXqZpXpZoBAoCApHAoDApHAoECpQpXpZoFApINAL NGoGApHAoHApTAqTAoICpQpXpZoKApHAoLApONG UEXoMApCpQpX
pZoNApGApHApYAoOCpQpXpZoPApHAoRAoSApHAqORT AWXuUEZoTApHApSAoUCpECqQqXqZpICqQqUCrQrXrZqXqZpQpXpZoVC
pQpXpZoWAoXAoYAoZAeUT COMPONENT-001t2t3t4t5t6t7t8t9s10t1t2t3t4t5t6t7t8t9s20t1t2t3t4t5t6t7t8t9s30t1
t2t3t4t5t6t7t8t9s40t1t2t3t4t5t6t7t8t9s50t1t2t3t4t5t6t7t8t9s60t1t2t3t4t5t6t7t8t9s70t1t2t3t4t5t6t7t8
t9s80t1t2t3t4t5t6t7t8t9s90t1t2t3t4t5t6t7t8t9r100t1t2t3t4t5t6t7t8t9s10t1t2t3t4t5t6t7t8t9s20t1t2t3t4
t5t6t7t8t9s30t1t2t3t4t5t6t7t8t9s40t1t2t3t4t5t6t7t8t9s50t1t2t3t4t5t6t7t8t9s60t1t2t3t4t5t6t7t8t9s70t1
t2t3t4t5t6t7t8t9s80t1t2t3t4t5t6t7t8t9s90t1t2t3t4t5t6t7t8t9r200t1t2t3t4t5t6t7t8t9s10t1t2t3t4t5t6t7t8
t9s20t1t2t3t4t5t6t7t8t9s30t1t2t3t4t5t6t7t8t9s40t1t2t3t4t5t6t7t8t9s50t1t2t3t4t5t6t7t8t9s60t1t2t3t4t5
t6t7t8t9s70t1t2t3t4t5t6t7t8t9s80t1t2t3t4t5t6t7t8t9s90t1t2t3t4t5t6t7t8t9r300t1t2t3t4t5t6t7t8t9s10t1
t2t3t4t5t6t7t8t9s20t1t2t3t4t5t6t7t8t9s30t1t2t3t4t5t6t7t8t9s40t1t2t3t4t5t6t7t8t9s50t1t2t3t4t5t6t7t8
t9s60t1t2t3t4t5t6t7t8t9s70t1t2t3t4t5t6t7t8t9s80t1t2t3t4t5t6t7t8t9s90t1t2t3t4t5t6t7t8t9r400t1t2t3t4
t5t6t7t8t9s10t1t2t3t4t5t6t7t8t9s20t1t2t3t4t5t6t7t8t9s30t1t2t3t4t5t6t7t8t9s40t1t2t3t4t5t6t7t8t9s50t1
t2t3t4t5t6t7t8t9s60t1t2t3t4t5t6t7t8t9s70t1t2t3t4t5t6t7t8t9s80t1t2t3t4t5t6t7t8t9s90t1t2t3t4t5t6t7t8
t9r500t1t2t3t4t5t6t7t8t9s10t1t2t3t4t5t6t7t8t9s20t1t2t3t4t5t6t7t8t9s30t1t2t3t4t5t6t7t8t9s40t1t2t3t4
t5t6t7t8t9s50t1t2t3t4t5t6t7t8t9s60t1t2t3t4t5t6t7t8t9s70t1t2t3t4t5t6t7t8t9s80t1t2t3t4t5t6t7t8t9s90t1
t2t3t4t5t6t7t8t9r600t1t2t3t4t5t6t7t8t9s10t1t2t3t4t5t6t7t8t9s20t1t2t3t4t5t6t7t8t9s30t1t2t3t4t5t6t7t8
t9s40t1t2t3t4t5t6t7t8t9s50t1t2t3t4t5t6t7t8t9s60t1t2t3t4t5t6t7t8t9s70t1t2t3t4t5t6t7t8t9s80t1t2t3t4t5
t6t7t8t9s90t1t2t3t4t5t6t7t8t9r700t1t2t3t4t5t6t7t8t9s10t1t2t3t4t5t6t7t8t9s20t1t2t3t4t5t6t7t8t9s30t1
t2t3t4t5t6t7t8t9s40t1t2t3t4t5t6t7t8t9s50t1t2t3t4t5t6t7t8t9s60t1t2t3t4t5t6t7t8hITERATION MARK
cPE CARTRIDGEfDRIVEcURUScXIbEACUP WITHOUT HANDLEdPOTdR-OFF CALENDAReDROP-BARBED RIGHTWARDS ARROW
jSPOKED ASTERISKcDDY BEARcLEPHONE LOCATION SIGNkON TOP OF MODEMkRECEIVERs WITH PAGEnORDERkSIGN
eSCOPEeVISIONdUGU AI LENGTH MARKhDIGIT EIGHTnFIVEoOURnNINEnONEnSEVENoIXnTHREEoWOnZERO
hFRACTION DIGIT ONE FOR EVEN POWERS OF FOUR(ODD POWERS OF FOURwTHREE FOR EVEN POWERS OF FOUR
*ODD POWERS OF FOURxWO FOR EVEN POWERS OF FOUR(ODD POWERS OF FOURwZERO FOR ODD POWERS OF FOUR
hLENGTH MARKjTTER ApApIpUoBApHAoCApHAoDApDAqHApHApZAoEpEoGApHAoHAoIpIoJApHAoKApHAoLApLAqLAoMAoNA
qKAARA POLLUpGApNApYAoOpOoPApHAoRApRAqRAoSApHApSAoTApHApSApTAqHAoUpUoVApOCALIC LxLwRxRoYA
hSIGN ANUSVARAnVAGRAHAmCANDRABINDUnOMBINING ANUSVARA ABOVEwCANDRABINDU ABOVEmNUKTAmSIDDHAMmTUUMU
mVIRAMAoSARGAhVOWEL SIGN AAtItUsEtEsItIsOtOsUtUsVOCALIC L$L!R$RcNGE SIGNdNIS RACQUET AND BALLdT
cST TUBEcTRAGRAM FOR ACCUMULATIONpDVANCEpGGRAVATIONpSCENToBARRIERpOLD RESOLUTIONpRANCHING OUT
oCENTREpHANGEpLOSED MOUTHtNESSsUREpOMPLETIONtIANCEqNSTANCYrTACTsENTIONsRARIETYoDARKENING
pECISIVENESSqFECTIVENESS OR DISTORTIONqPARTUREpIFFICULTIESqMINISHMENTrMINGqVERGENCEpOUBTpUTIESoEASE
pMBELLISHMENTpNCOUNTERSqDEAVOURqLARGEMENTpTERNITYpXHAUSTIONoFAILUREpLIGHTpOLLOWINGqSTERING
pULL CIRCLEsNESSoGATHERINGx INpOING TO MEETpREATNESSpUARDEDNESSoHARDNESSpOLDING BACKoINCREASEqNER
oJOYoKEEPING SMALLpINSHIPoLABOURINGqW OR MODELpEGIONoMASSINGpEASUREpIREDoON THE VERGEpPPOSITION
oPACKINGqTTERNpENETRATIONpURITYoREACHqLEASEqSIDENCEsSTANCErPONSEpITUALoSEVERANCEpINKINGpTOPPAGErVE
qRENGTHoUNITYoVASTNESS OR WASTINGoWAITINGqTCHoYOUTHFULNESSbHAANA AABAAFILIiBAFILIhEBEFILIiEBEEFILI
iYBEYFILIhIBIFILIhLETTER AINUpLIFUoBAAoCHAVIYANIoDAADHUqVIYANIpHAALUoFAAFUoGAAFUpHAINUpNAVIYANIoHAA
pHAAoJAVIYANIoKAAFUpHAAoLAAMUpHAVIYANIoMEEMUoNAApOONUoPAVIYANIoQAAFUoRAAoSAADHUpEENUpHAVIYANIqEENU
oTAVIYANIpHAAsLUpOpTAAoVAAVUoWAAVUoYAAoZAAqVIYANIpOhOABOAFILIiBOFILIiOBOOFILIhSUKUNhUBUFILI
dI CHARACTER ANGKHANKHUpBO BAIMAIpCHO CHANxGvINGvOEpDO CHADAsDEKpFO FAuNrNGMANpHO HIPsNOKHUK
pKHO KHAIvONvUATvWAItRAKHANGsMUTqO KAIpLAKKHANGYAOqO CHULAsLINGqUpMAI CHATTAWAtEKtHAN-AKATtTHOuRI
sTAIKHUsYAMOKqO MApNGO NGUqIKHAHITqO NENtUpO ANGpPAIYANNOIqHINTHUrO PHANvUNGtSAMPHAOqO PLApRO RUAqU
pSARA AvAvEvI MAIMALAI$UANvMuEuIvIuOuUvEwEvUqO RUSIsSALAtOtUApTHANTHAKHATrO NANGMONTHOtPHUTHAO
tTHAHANwNvONGvUNGqO PATAKsTAOpWO WAENpYAMAKKANqO YAKtINGgURRENCY SYMBOL BAHTfDIGIT EIGHTlFIVEmOUR
lNINElONElSEVENmIXlTHREEmWOlZEROcERE DOES NOT EXISTgEXISTSfFOREeMODYNAMICgMETERcIN GREEK CROSS
fSALTIREgPACEeKING FACEdRD PLACE MEDALcONG SANDALdUGHT BALLOONcREE BUTTON MOUSE
gCONSECUTIVE EQUALS SIGNSgDIMENSIONAL ANGLEhOT PUNCTUATIONgLEFTWARDS ARROWShINES CONVERGING LEFT
xRIGHTgNETWORKED COMPUTERSgPOINTED BLACK STARgRAYS ABOVElBELOWlLEFTlRIGHThIGHTWARDS ARROWS
gSPEECH BUBBLESf-D BOTTOM-LIGHTED RIGHTWARDS ARROWHEADiLEFT-LIGHTED DOWNWARDS EQUILATERAL ARROWHEAD
iRIGHT-LIGHTED UPWARDS EQUILATERAL ARROWHEADiTOP-LIGHTED LEFTWARDS EQUILATERAL ARROWHEAD
uRIGHTWARDS ARROWHEAD)EQUILATERAL ARROWHEADgEM DASHgPER-EM SPACEcUMBS DOWN SIGNhUP SIGN
dNDER CLOUD AND RAINhSTORMbIBETAN ASTROLOGICAL SIGN -KHYUD PA!SDONG TSHUGS$GRA GCAN -CHAR RTAGS
iCANTILLATION SIGN CANG TE-U!HEAVY BEAT!LIGHT BEAT!SBUB -CHALiDIGIT EIGHToFIVEpOURoHALF EIGHTtFIVE
uOURtNINEtONEtSEVENuIXtTHREEuWOtZEROoNINEoONEoSEVENpIXoTHREEpWOoZEROiKU RU KHAr BZHI MIG CAN
iLETTER -ApApBAqHApCAqHApDAqDArHAqHAqZArHApFIXED-FORM RApGAqHApHApJApKAqHAqKAqSSApLApMApNAqGAqNAqYA
pPAqHApRAqRApSAqHAqSApTAqHAqSArHAqTArHApWApYApZAqHAjOGOTYPE SIGN CHAD RTAGSwLHAG RTAGS
iMARK ANG KHANG GYASzONnBKA- SHOG GI MGO RGYANxYIG MGOoSDUS RTAGSpKA- SHOG GI MGO RGYANqUR YIG MGO
nCARET -DZUD RTAGS BZHI MIG CAN)ME LONG CANtYIG MGO PHUR SHAD MAoHE MGO
oLOSING BRDA RNYING YIG MGO SGAB MAvYIG MGO SGAB MAnDELIMITER TSHEG BSTARnGTER TSHEG
sYIG MGO -UM GTER TSHEG MA(RNAM BCAD MA!TRUNCATED AoUG RTAGS GYASzONnHALANTA
nINITIAL BRDA RNYING YIG MGO MDUN MAvYIG MGO MDUN MApTERSYLLABIC TSHEGnLEADING MCHAN RTAGS
nMNYAM YIG GI MGO RGYANnNGAS BZUNG NYI ZLAySGOR RTAGSoYIS SHADsTSHEGx SHADnPALUTAnRGYA GRAM SHAD
oIN CHEN SPUNGS SHADnSBRUL SHADoHADnTRAILING MCHAN RTAGSoSA -PHRUpHEG SHADnYIG MGO TSHEG SHAD MA
iSIGN GRU CAN RGYINGSrMED RGYINGSnINVERTED MCHU CANnLCE TSA CANpI RTAGSnMAR TSHESoCHU CAN
nNYI ZLA NAA DAnRDEL DKAR GCIGyNYISySUMxRDEL NAGsNAG GCIGxNYISxSUMwRDEL DKARoJES SU NGA ROoNAM BCAD
nSNA LDANnYANG RTAGSpR TSHESjUBJOINED LETTER -AzAzBA!HAzCA!HAzDA!DA$HA!HA!ZA$HAzFIXED-FORM RA:WA:YA
zGA!HAzHAzJAzKA!HA!SSAzLAzMAzNA!GA!NA!YAzPA!HAzRAzSA!HA!SAzTA!HA!SA$HA!TA$HAzWAzYAzZA!HA
sSIGN INVERTED MCHU CANxLCE TSA CANxMCHU CANjYLLABLE OMkMBOL DRIL BUpNOR BUv BZHI -KHYIL
wGSUM -KHYILwNYIS -KHYILpPADMA GDANqHUR PApRDO RJEw RGYA GRAMiVOWEL SIGN AAtEuEtIuItOuOtREVERSED I
&ItUuUtVOCALIC L%L$R%RcCKETcE OVER INFINITYcFINAGH CONSONANT JOINERjLETTER AHAGGAR YAZHrYER YAGH
qBERBER ACADEMY YAH+JqTAWELLEMET YAZrUAREG YAGH!NzHzK!HzNGzQzZHqYAsAsBtHsCHsDtDuHtHsFsGtHuHsHtHsJsK
tHuHsLsMsNsPsQsRtRsStHtSsTtHtTsVsWsYsZtHtZrEsYrIrOrUjMODIFIER LETTER LABIALIZATION MARK
jSEPARATOR MARKcGERf FACEdHT TRIFOLIATE SNOWFLAKEcLDEf OPERATORo ABOVE LEFTWARDS ARROW
vRIGHTWARDS ARROWpWITH DOT ABOVEuRISING DOTSgWITH DOT ABOVEpBELOWlRING ABOVEcMER CLOCK
eS WITH LEFT HALF BLACKlRIGHT HALF BLACKcNYe TWO DOTS OVER ONE DOT PUNCTUATIONcRED FACE
dHUTA ABBREVIATION SIGNjNJIiDIGIT EIGHToFIVEpOURoNINEoONEoSEVENpIXoTHREEpWOoZEROiGVANGiLETTER AqAqI
qUpBAqHApCAqHApDAqDArHAqHApEpGAqHApHApIqIpJAqHApKAqHApLApMApNAqGAqNAqYApOpPAqHApRApSAqHAqSApTAqHA
qTArHApUqUpVAqOCALIC LyLxRyRpYAiOMiSIGN ANUSVARAoVAGRAHAnCANDRABINDUnNUKTAnVIRAMApSARGA
iVOWEL SIGN AAuIuUtEtIuItOtSHORT EzOtUuUtVOCALIC L%L$R%RdONIAN SIGN CAPITAL EToETbOILETcKYO TOWER
cMATOcNGUEcOLBOXdTHfBRUSHcP ARC ANTICLOCKWISE ARROW$ WITH PLUSiCLOCKWISE ARROW WITH MINUS
eCURLY BRACKETeHALF BLACK CIRCLEjINTEGRALjLEFT PARENTHESISjRIGHT PARENTHESISjSECTION SIGNgT
eLEFT CORNERkROPjHALF BRACKETePARENTHESISeRIGHT CORNERlROPkHALF BRACKETeSQUARE BRACKET
eTORTOISE SHELL BRACKETeWITH UPWARDS ARROW ABOVEcRTOISE SHELL BRACKETED CJK UNIFIED IDEOGRAPH-4E09
~-4E8C~-52DD~-5B89~-6253~-6557~-672C~-70B9~-76D7zLATIN CAPITAL LETTER ScTAL RUNOUTdO LETTER AnEmBA
nREATHY AEuEvOuIvUmCHAmDAmEnOmGAmHAmInUmJAmKAmLAmMAmNAnGAmOmPAmRAmSAmTAmUmWAmYAfSIGN RISING TONE
bRACKBALLeTORdDE MARK SIGNdINdMe CARdNSPLUTOfVERSAL INTERSECTIONcIANGLE WITH DOT ABOVE
oROUNDED CORNERSoSERIFS AT BOTTOMoUNDERBARi-HEADED RIGHTWARDS ARROWgULAR BULLETlFLAG ON POSTlRULER
dCOLONdDENT EMBLEMdGRAM FOR EARTHmFIREmHEAVENmLAKEmMOUNTAINmTHUNDERmWATERnINDdPLE COLON OPERATOR
hDAGGERhHORIZONTAL BAR WITH DOUBLE VERTICAL STROKE$TRIPLE VERTICAL STROKEhINTEGRAL
hNESTED GREATER-THANoLESS-THANhPLUSiRIMEhSOLIDUS BINARY RELATIONhTILDEhVERTICAL BAR BINARY RELATION
uDELIMITERuRIGHT TURNSTILEuWITH HORIZONTAL STROKEcOLLfEYBUSdPHYeICAL DRINKjFISHcUEe LIGHT MOON ARTA
dMPETbUGRIK SIGNcLIPcMBLER GLASScRKEYeISH LIRA SIGNdNED AMPERSANDiNGLEhBLACK PENTAGONnSHOGI PIECE
hCAPITAL FiOMMAhDAGGERiIGIT THREEoWOhGREEK SMALL LETTER IOTAhNORTH EAST POINTING LEAF
nWEST POINTING LEAFjT SIGNhOK HAND SIGNhSANS-SERIF CAPITAL G!L!YiEMICOLONiMALL F
iOUTH EAST POINTING LEAFnWEST POINTING LEAFhWHITE SHOGI PIECEdTLEbWELVE POINTED BLACK STAR
cISTED RIGHTWARDS ARROWScO ASTERISKS ALIGNED VERTICALLYeBUTTON MOUSEeCONSECUTIVE EQUALS SIGNS
eDOT LEADERiPUNCTUATIONhS OVER ONE DOT PUNCTUATIONeHEARTSeINTERSECTING LOGICAL ANDzOR
eJOINED SQUARESeLOGICAL AND OPERATORmOR OPERATOReMEN HOLDING HANDSeSPEECH BUBBLES
eWOMEN HOLDING HANDSd-EM DASHaUGARITIC LETTER AINrLPAqBETAqDELTArHALqGAMLArHAINqHOsTAqIqKAFrHA
qLAMDAqMEMqNUNqPUqQOPAqRASHAqSADEsMKArHINrSUqTETrHANNArOqUqWOqYODqZETArUjWORD DIVIDERbMBRELLA
i ON GROUNDjWITH RAIN DROPSbNAMUSED FACEcCERTAINTY SIGNcDERTIEdO SYMBOLcICORN FACEdON
f ABOVE BAR ABOVE INTERSECTIONmINTERSECTIONgBESIDE AND JOINED WITH UNIONgWITH LOGICAL ORlMINUS SIGN
lOVERBARdT SEPARATOReED SYMBOLdVERSAL RECYCLING SYMBOLcMARRIED PARTNERSHIP SYMBOL
bP ARROW THROUGH CIRCLEiHEADm BETWEEN TWO HORIZONTAL BARSnIN A RECTANGLE BOX
dBARB LEFT DOWN BARB LEFT HARPOONxRIGHT HARPOONiRIGHT DOWN BARB LEFT HARPOONyRIGHT HARPOON
dDOWN ARROWn WITH BASEiBLACK ARROWiDOUBLE ARROWiSANS-SERIF ARROWiTRIANGLE-HEADED ARROWiWHITE ARROW
dFISH TAILdRIGHT DIAGONAL ELLIPSISdTACKh WITH CIRCLE ABOVEc-POINTING AIRPLANEmMILITARY AIRPLANE
mRED TRIANGLEmSMALL AIRPLANEsRED TRIANGLEmTRIANGLE WITH LEFT HALF BLACK!RIGHT HALF BLACK
cPER AND LEFT AND LOWER TRIANGULAR THREE QUARTERS BLOCKlOWER ONE EIGHTH BLOCKqTRIANGULAR HALF BLOCK
kRIGHT AND LOWER TRIANGULAR THREE QUARTERS BLOCKgBLADE SCISSORSgFIVE EIGHTHS BLOCKgHALF BLOCK
q AND LOWER HALF INVERSE MEDIUM SHADElCIRCLElINVERSE MEDIUM SHADE AND LOWER HALF BLOCKtWHITE CIRCLE
lMEDIUM SHADEgLEFT BLOCK DIAGONAL LOWER CENTRE TO LOWER MIDDLE RIGHT@UPPER MIDDLE RIGHT~R RIGHT
*LEFT TO LOWER MIDDLE RIGHT>UPPER CENTRE~MIDDLE RIGHT*MIDDLE LEFT TO UPPER CENTRE
~ UPPER MIDDLE RIGHT~ UPPER RIGHT!UPPER MIDDLE LEFT TO UPPER CENTRE~ UPPER RIGHTlCORNER WITH DOT
lOR LOWER RIGHT CURLY BRACKET SECTIONlQUADRANT CIRCULAR ARClTO LOWER RIGHT FILLmRIANGLE
rULAR MEDIUM SHADEgONE EIGHTH BLOCKkQUARTER BLOCK
gRIGHT BLOCK DIAGONAL LOWER MIDDLE LEFT TO LOWER CENTRE~O LOWER RIGHT
$UPPER CENTRE TO LOWER MIDDLE RIGHT~ER RIGHT^UPPER MIDDLE RIGHT+LEFT TO LOWER CENTRE~ MIDDLE RIGHT
?UPPER MIDDLE RIGHT+MIDDLE LEFT TO LOWER CENTRE~O LOWER MIDDLE RIGHT~O LOWER RIGHT
mDROP-SHADOWED WHITE SQUAREmOR LOWER LEFT CURLY BRACKET SECTIONmPENCILmQUADRANT CIRCULAR ARC
mSHADOWED WHITE CIRCLE$SQUAREmTO LOWER LEFT FILLnRIANGLEsULAR MEDIUM SHADEgSEVEN EIGHTHS BLOCK
gTHREE EIGHTHS BLOCKmQUARTERS BLOCKhRIANGULAR ONE QUARTER BLOCKcSIDE-DOWN FACEcWARDS ANCORAjRROW
n AND RIGHT ONE EIGHTH BLOCKoFROM BARoLEFTWARDS OF DOWNWARDS ARROWoTO BARoWITH DOUBLE STROKE
tEQUILATERAL ARROWHEADtHORIZONTAL STROKEtLARGE TRIANGLE ARROWHEADtMEDIUM TRIANGLE ARROWHEAD
tNOTCHED TAILtSMALL EQUILATERAL ARROWHEADzTRIANGLE ARROWHEADtTIP LEFTWARDSxRIGHTWARDSiBLACK ARROW
oCIRCLED WHITE ARROWiCOMPRESSED ARROWiDASHED ARROWjOUBLE ARROWiFINGER-POST ARROW
iHARPOON WITH BARB LEFT BESIDE DOWNWARDS HARPOON WITH BARB RIGHT<UPWARDS HARPOON WITH BARB RIGHT
)FROM BAR)TO BAR(WARDS!RIGHT FROM BAR*TO BAR)WARDSjEAVY ARROWoCOMPRESSED ARROWiPAIRED ARROWS
iQUADRUPLE ARROWiROCKETiSANS-SERIF ARROWjQUARED ARROWiTRIANGLE ARROWHEADq-HEADED ARROW
& LEFTWARDS OF DOWNWARDS TRIANGLE-HEADED ARROW(TO BAR(WITH BOLD SHAFT.DOUBLE HORIZONTAL STROKE
.HEAVY SHAFT.LONG TIP LEFTWARDS_RIGHTWARDS.MEDIUM SHAFT.NARROW SHAFT.VERY HEAVY SHAFTyDASHED ARROW
yPAIRED ARROWSlPLE ARROWjWO HEADED ARROWl-HEADED ARROW FROM SMALL CIRCLEzWITH TRIANGLE ARROWHEADS
iWHITE ARROWt FROM BAR% WITH HORIZONTAL BARuON PEDESTAL) WITH HORIZONTAL BAR;VERTICAL BAR
uWITHIN TRIANGLE ARROWHEADoDOUBLE ARROW! ON PEDESTALbRANUSbSaVAI COMMAeDIGIT EIGHTkFIVElOURkNINE
kONEkSEVENlIXkTHREElWOkZEROeFULL STOPeQUESTION MARKeSYLLABLE AoNnBAoEpEoHApEqEpIpOqOpUoIoOpOoUnCAoE
pEoIoOpOoUnDAoEpEoHApEqEpHAqErEqIqOrOqUpIpOqOpUoIoOpOoUnEoEpNoNnFAoEpEoIoOpOoUnGAoBApEqEqNpIpOqNqO
pUoEpEpNoIoOpOoUnHApNoEpEpNoIpNoOpNpOoUpNnIoNnJAoEpEoIoOpOoUnKApNoEpEoIoOpOoPAqNpEqEqNpIpOqOpUoUnLA
oEpEpNGTHENERoIoOpOoUnMAoBApEqEpIpOqOpUoEpEoGBAqErEqIqOrOqUoIoOpOoUnNAoDApEqEpIpOqLE DOtFAtKAtMA
tSOOqOpUoEpEoGpANpENpGAqErErNqIqOrOqUpONoIoJApEqEpIpOqOpUoOpOoUoYApEqEpIpOqOpUnOoNoOpNnPAoEpEoIoOpO
oUnRAoEpEoIoOpOoUnSAoEpEoHApEqEpIpOqOpUoIoOpOoUnTAoEpEoHApEqEpIpOqOpUoIoOpOoUnUoNnVAoEpEoIoOpOoUnWA
pNoEpEqNpNoIpNoOpNpOqNoUpNnYAoEpEoIoOpOoUnZAoEpEoHApEqEpIpOqOpUoIoOpOoUgMBOL BANGlDANGmO-OnONGlFAA
mEENGlJONGlKEENGmUNGlNIIlTAAmINGmONGcMPIREcRIATION SELECTOR-1u0v0v1v2v3v4v5v6v7v8v9u1v0v1v2v3v4v5v6
v7v8v9u2v0v1v2v3v4v5v6v7v8v9u3v0v1v2v3v4v5v6v7v8v9u4v0v1v2v3v4v5v6v7v8v9u5v0v1v2v3v4v5v6v7v8v9u6v0
v1v2v3v4v5v6v7v8v9u7v0v1v2v3v4v5v6v7v8v9u8v0v1v2v3v4v5v6v7v8v9u9v0v1v2v3v4v5v6v7v8v9t2u0v0v1v2v3v4
v5v6v7v8v9u1v0v1v2v3v4v5v6v7v8v9u2v0v1v2v3v4v5v6v7v8v9u3v0v1v2v3v4v5v6v7v8v9u4v0v1v2v3v4v5v6v7v8v9
u5v0v1v2v3v4v5v6u6u7u8u9t3u0u1u2u3u4u5u6u7u8u9t4u0u1u2u3u4u5u6u7u8u9t5u0u1u2u3u4u5u6u7u8u9t6u0u1u2
u3u4u5u6u7u8u9t7u0u1u2u3u4u5u6u7u8u9t8u0u1u2u3u4u5u6u7u8u9t9u0u1u2u3u4u5u6u7u8u9
bECTOR OR CROSS PRODUCTcDIC SIGN ANUSVARA ANTARGOMUKHAuBAHIRGOMUKHAuUBHAYATO MUKHAuVAMAGOMUKHA
) WITH TAILmRDHAVISARGAmTIKRAMAlDOUBLE ANUSVARA ANTARGOMUKHAlHEXIFORM LONG ANUSVARAlJIHVAMULIYA
lLONG ANUSVARAlNIHSHVASAlREVERSED VISARGA ANUDATTA%UDATTAmOTATED ARDHAVISARGAmTHANG LONG ANUSVARA
lTIRYAKlUPADHMANIYAlVISARGA ANUDATTA$ WITH TAILtSVARITAtUDATTAz WITH TAIL
lYAJURVEDIC MIDLINE SVARITAgTONE ATHARVAVEDIC INDEPENDENT SVARITAlCANDRA ABOVEsBELOWlDOT BELOW
nUBLE RING ABOVEsSVARITAlKARSHANAnTHAKA ANUDATTAlPRENKHAlRIGVEDIC KASHMIRI INDEPENDENT SVARITA
nNG ABOVElSHARAlTHREE DOTS BELOWmRIPLE SVARITAmWO DOTS BELOW
lYAJURVEDIC AGGRAVATED INDEPENDENT SVARITAwINDEPENDENT SVARITAwKATHAKA INDEPENDENT SVARITA
~ITA SCHROEDERcRSICLEdTICAL BAR BESIDE RIGHT TRIANGLEnDOUBLE LEFT TURNSTILEnTRIPLE RIGHT TURNSTILE
nWITH HORIZONTAL STROKEjELLIPSISjFOUR DOTSjIDEOGRAPHIC ITERATION MARKjKANA REPEAT MARKz LOWER HALF
!UPPER HALFvWITH VOICED SOUND MARK^ UPPER HALFjLINEn EXTENSIONoWITH CIRCLE ABOVE!BELOWtMIDDLE DOT
jMALE WITH STROKE SIGNjONE EIGHTH BLOCK-2!3!4!5!6!7jSIX DOTSjTAB KEYmULATIONt SETkILDEkRAFFIC LIGHT
jZIGZAG LINEdY BOLD GREEK CROSSfHEAVY EIGHT POINTED BLACK STARrSPOKED ASTERISKlFIVE SPOKED ASTERISK
lGREEK CROSSlREVERSE SOLIDUSlSALTIREmIX SPOKED ASTERISKmOLIDUSlWHITE CIRCLErSQUARE
fMUCH GREATER-THANkLESS-THANcSTAbIBRATION MODEcCTORY HANDcDEO CAMERAgGAMEfCASSETTE
cETNAMESE ALTERNATE READING MARK CA,NHAYdWDATA SQUAREcOLINcRGOcTHKUQI CAPITAL LETTER AyBBEzEyCEzHE
yDEzHEyEzIyFEyGAyHAzHAyIzJEyJEyKAyLAzLAyMEyNEzJEyOyPEyQAyREySEzHEyTEzHEyUyVEyXEyYyZEjSMALL LETTER A
wBBExEwCExHEwDExHEwExIwFEwGAwHAxHAwIxJEwJEwKAwLAxLAwMEwNExJEwOwPEwQAwREwSExHEwTExHEwUwVEwXEwYwZE
bOIDED GREEK CROSScLCANOdLEYBALLdUME INTEGRALbS1d0e0e1e2e3e4e5e6e7e8e9d1e0e1e2e3e4e5e6e7e8e9d2e0e1
e2e3e4e5e6e7e8e9d3e0e1e2e3e4e5e6e7e8e9d4e0e1e2e3e4e5e6e7e8e9d5e0e1e2e3e4e5e6e7e8e9d6e0e1e2e3e4e5e6
e7e8e9d7e0e1e2e3e4e5e6e7e8e9d8e0e1e2e3e4e5e6e7e8e9d9e0e1e2e3e4e5e6e7e8e9c2d0e0e1e2e3e4e5e6e7e8e9d1
e0e1e2e3e4e5e6e7e8e9d2e0e1e2e3e4e5e6e7e8e9d3e0e1e2e3e4e5e6e7e8e9d4e0e1e2e3e4e5e6e7e8e9d5e0e1e2e3e4
e5e6d6d7d8d9c3d0d1d2d3d4d5d6d7d8d9c4d0d1d2d3d4d5d6d7d8d9c5d0d1d2d3d4d5d6d7d8d9c6d0d1d2d3d4d5d6d7d8
d9c7d0d1d2d3d4d5d6d7d8d9c8d0d1d2d3d4d5d6d7d8d9c9d0d1d2d3d4d5d6d7d8d9bTcSbULCANUS
dGAR FRACTION FIVE EIGHTHSvSIXTHSrOUR FIFTHSqONE EIGHTHuFIFTHuHALFuNINTHuQUARTERuSEVENTHvIXTHuTENTH
vHIRDqSEVEN EIGHTHSqTHREE EIGHTHSwFIFTHSwQUARTERSrWO FIFTHSuTHIRDSqZERO THIRDSaWAFFLE
cNCHO DIGIT EIGHTnFIVEoOURnNINEnONEnSEVENoIXnTHREEoWOnZEROhLETTER ApAqNrGpNGpUoBAoCAoDAoEpNoFAoGA
oHAoIpNGoJAoKApHAoLApLHAoMAoNApGApYAoOpNqGoPApHAoRAoSApHAoTApHApRApSAoUpENoVAoWAoYApIHoZAhNGUN SIGN
hTONE KOIpNImTUPpNIdING CRESCENT MOON SYMBOLhGIBBOUS MOON SYMBOLcRANG CITI CAPITAL LETTER A%M%NG%T
$BU$DA$E%NN&Y$GA$HAR%IYO%OLO&RR$II$KO$NGAA%UNG$O%DD$PU$SII%SUU$TTE$UC%U$VIYO$WI$YA%O%U&J
mDIGIT EIGHTsFIVEtOURsNINEsONEsSEVENtIXsTHREEtWOsZEROmNUMBER EIGHTYtFIFTYuORTYtNINETYtSEVENTYuIXTY
tTENuHIRTYuWENTYmOMmSMALL LETTER A!M!NG!TzBUzDAzE!NN$YzGAzHAR!IYO!OLO$RRzIIzKOzNGAA!UNGzO!DDzPUzSII
!SUUzTTEzUC!UzVIYOzWIzYA!O!U$JdNING SIGNcSTEBASKETcTCHdER BUFFALOgCLOSETgPOLOgWAVEfMELON
cVE ARROW POINTING DIRECTLY LEFT&RIGHTfDASHdING BLACK FLAGhHAND SIGNhWHITE FLAGdY DASHfLINEgOW LINE
fOVERLINEcXING CRESCENT MOON SYMBOLhGIBBOUS MOON SYMBOLbEARY CAT FACEgFACEcDDING
dGE-TAILED RIGHTWARDS ARROWcIERSTRASS ELLIPTIC FUNCTIONdGHT LIFTERcST SYRIAC CROSSbHALEcEEL
f OF DHARMAfCHAIR SYMBOLcITE ARROW SHAFT WIDTH ONEyTWO THIRDSgBULLETgCHESS BISHOP
s ROTATED NINETY DEGREES$TWO HUNDRED SEVENTY DEGREESmEQUIHOPPERw ROTATED NINETY DEGREESmKING
q ROTATED NINETY DEGREESzTWO HUNDRED SEVENTY DEGREESnNIGHTs ROTATED FORTY-FIVE DEGREES
$NINETY DEGREES$ONE HUNDRED THIRTY-FIVE DEGREES$THREE HUNDRED FIFTEEN DEGREES
%WO HUNDRED SEVENTY DEGREES=TWENTY-FIVE DEGREESs-BISHOPtQUEENtROOKmPAWNq ROTATED NINETY DEGREES
zTWO HUNDRED SEVENTY DEGREESmQUEENr ROTATED NINETY DEGREES!TWO HUNDRED SEVENTY DEGREESmROOK
q ROTATED NINETY DEGREESzTWO HUNDRED SEVENTY DEGREESmTURNED BISHOPtKINGuNIGHTtPAWNtQUEENtROOKhIRCLE
m CONTAINING BLACK SMALL CIRCLEnWITH DOT RIGHTuWN ARROWsLOWER LEFT QUADRANTyRIGHT QUADRANTsTWO DOTS
sUPPER LEFT QUADRANTyRIGHT QUADRANThLUB SUIThONCAVE-SIDED DIAMOND$ WITH LEFTWARDS TICK
+RIGHTWARDS TICKgDIAMONDn CONTAINING BLACK MEDIUM DIAMOND)SMALL DIAMOND)VERY SMALL DIAMOND
oIN SQUAREoSUIToWITH CENTRED DOThOWN POINTING BACKHAND INDEXuINDEXuLEFT HAND INDEX
k-POINTING SMALL TRIANGLEuTRIANGLEhRAUGHTS KINGpMANgEXCLAMATION MARK ORNAMENTgFLAG
k WITH HORIZONTAL MIDDLE BLACK STRIPEiORETTEjWERhOUR POINTED CUSPtSTARhROWNING FACE
gHARD SHELL FLOPPY DISKhEARTl SUITjVY CHECK MARKmSALTIRE WITH ROUNDED CORNERSiXAGON
hORIZONTAL ELLIPSEiURGLASSgLARGE SQUAREiTIN CROSShEFT LANE MERGElPOINTING BACKHAND INDEXuINDEX
k-POINTING POINTERuSMALL TRIANGLEuTRIANGLEhOZENGE CONTAINING BLACK SMALL LOZENGEgMEDIUM DIAMOND
nLOZENGEnSMALL SQUAREoQUAREoTARhOON SELENAgNIBgPARALLELOGRAMhENNANTjTAGONgQUESTION MARK ORNAMENT
gRECTANGLEhIGHT POINTING BACKHAND INDEXvINDEXl-POINTING PENTAGONwOINTERvSMALL TRIANGLEvTRIANGLE
gSCISSORShESAME DOThHOGI PIECEhMALL LOZENGEmSQUAREnTARiILING FACEhPADE SUIThQUAREm BUTTON
nCONTAINING BLACK MEDIUM SQUARE(SMALL SQUARE(VERY SMALL SQUAREnWITH CENTRE VERTICAL LINE
sLEFTWARDS TICKtOWER LEFT QUADRANTyRIGHT QUADRANTsRIGHTWARDS TICKtOUNDED CORNERS
sUPPER LEFT QUADRANTyRIGHT QUADRANTsVERTICAL BISECTING LINEhTARhUNj BEHIND CLOUDw WITH RAIN
kWITH RAYSpSMALL CLOUDgTELEPHONEhOUCHTONE TELEPHONEhRAPEZIUMiIANGLE CONTAINING SMALL WHITE TRIANGLE
hWO-WAY LEFT WAY TRAFFICgUP POINTING BACKHAND INDEXsINDEXi-POINTING CHEVRONsSMALL TRIANGLEsTRIANGLE
! WITH DOTgVERTICAL BARpELLIPSEpRECTANGLEjY SMALL SQUAREf-FEATHERED RIGHTWARDS ARROW
bIDE-HEADED DOWNWARDS BARB ARROWwHEAVY BARB ARROWwLIGHT BARB ARROWwMEDIUM BARB ARROW
wVERY HEAVY BARB ARROWmLEFTWARDS BARB ARROWwHEAVY BARB ARROWwLIGHT BARB ARROWwMEDIUM BARB ARROW
wVERY HEAVY BARB ARROWmNORTH EAST BARB ARROWxHEAVY BARB ARROWxLIGHT BARB ARROWxMEDIUM BARB ARROW
xVERY HEAVY BARB ARROWsWEST BARB ARROWxHEAVY BARB ARROWxLIGHT BARB ARROWxMEDIUM BARB ARROW
xVERY HEAVY BARB ARROWmRIGHTWARDS BARB ARROWxHEAVY BARB ARROWxLIGHT BARB ARROWxMEDIUM BARB ARROW
xVERY HEAVY BARB ARROWmSOUTH EAST BARB ARROWxHEAVY BARB ARROWxLIGHT BARB ARROWxMEDIUM BARB ARROW
xVERY HEAVY BARB ARROWsWEST BARB ARROWxHEAVY BARB ARROWxLIGHT BARB ARROWxMEDIUM BARB ARROW
xVERY HEAVY BARB ARROWmUPWARDS BARB ARROWuHEAVY BARB ARROWuLIGHT BARB ARROWuMEDIUM BARB ARROW
uVERY HEAVY BARB ARROWcGGLY VERTICAL LINEcLTED FLOWERcND BLOWING FACEfCHIMEeOWdE GLASSdKING FACE
cRED KEYBOARDbJbOLF FACEcMANf WITH BUNNY EARSfS BOOTShCLOTHEShHAThSANDALdENS SYMBOLcN SIGNcOD
cRD JOINERfSEPARATOR MIDDLE DOTdLD MAPdMdRIED FACEbRAPPED PRESENTcEATH PRODUCTdNCHdSTLERS
cITING HANDaX IN A RECTANGLE BOXb-RAYbIANGQI BLACK CANNONpHARIOToELEPHANToGENERALoHORSEoMANDARIN
oSOLDIERiRED CANNONnHARIOTmELEPHANTmGENERALmHORSEmMANDARINmSOLDIERbORaYAWNING FACEbELLOW HEART
cN SIGNcZIDI COMBINING HAMZA MARKrMADDA MARKhHYPHENATION MARKhLETTER BEoCHHIMqIMpIMoDADqLoELIFpTpW
pYNoFAoGAFoHAYpHAoJAoKAFpHAFoLAMr WITH DOT ABOVEoMIMoNUNoOWoPEpHEoQAFoRApHAoSADpEpHINpINoTApHEoUM
oVAq ALTERNATE FORMoWAWoXApHEYNoYOTr WITH CIRCUMFLEX ABOVEoZAqLpEbI RADICAL BBUTmURlCHEmIPmUOPmYnP
nTlDDURmUlGAmEPmGOPnUOmOTlHMOmXITnOPnUOlJJIEnUTnYmOlKEmITlLInEmYRlMImOPlNBIEmYIPnOPmZUPlOPlPUTmYT
lQOTlSHATnOPnURnYmSIlTATmUlVEPmURlWOlYITmOlZAmOTmUPnRmZIETdSYLLABLE AnPnTnXmBAoPoToXnBApPpTpXoEpPpX
oIpEqPqTqXpPpTpXoOpPpTpXoUpOqPqXpPpRqXpTpXoYpPpTpXnEoPoXnIoEpPpTpXoPoToXnOoPoToXnUoOpPpXoPoRpXoToX
nYoPoRpXoToXmCAoPoToXnEoPoXnHApPpTpXoEpPpTpXoOpPpTpXoUpOqPqTqXpPpRqXpXoYpPpRqXpTpXnIoEpPpTpXoPoToX
nOoPoToXnUoOpPpXoPoRpXoToXnYoPoRpXoToXmDAoPoToXnDApPpTpXoEpPpXoIpEqPqXpPpTpXoOpPpTpXoUpOqPqXpPpRqX
pTpXnEoPoXnIoEpPpXoPoToXnOoPoToXnUoOpXoPoRpXoToXmEnXmFAoPoToXnIoPoToXnOoPoXnUoPoRpXoToXnYoPoToXmGA
oPoToXnEoPoToXnGApPpTpXoEpPpTpXoIpEqPqXpTpXoOpPpTpXoUpOqPqTqXpPpRqXpTpXnIoEpPpTpXoPoToXnOoPoToXnUoO
pPpTpXoPoRpXoToXmHAoPoToXnEoPoXnIEpXoTnLApPpTpXoEpPpXoIpEqPqXpPpTpXoOpPpXoUpOqPqXpPpRqXpTpXoYpPpRqX
pTpXnMApPpTpXoIpEqPqXpPpTpXoOpPpTpXoUpOqPqXpPpRqXpTpXoYpPpRqXpXnNApPpTpXoEpPpXoIpEqPqTqXpPpTpXoOPpT
pXoUOqXpTnOoPoToXnUOpPpTpXnXApPpTpXoEpPpXoIpEqPqTqXpPpTpXoOpPpTpXoUOqPqTqXmInEoPoToXnPnT
oERATION MARKnXmJIoEpPpTpXoPoToXnJIpEqPqTqXpPpTpXoOpPpTpXoUpOqPqXpPpRqXpTpXoYpPpTpXnOoPoToXnUoOpPpT
pXoPoRpXoToXnYoPoRpXoToXmKAoPoToXnEoPoToXnIoEpPpXoPoToXnOoPoToXnUoOpPpXoPoRpXoToXmLAoPoToXnEoPoXnI
oEpPpTpXoPoToXnOoPoToXnUoOpPpTpXoPoRpXoToXnYoPoRpXoToXmMAoPoToXnEoXnGApPpTpXoEpPpXoIEqXoOpPpTpXoUpO
qPqXpPpRqXpTpXnIoEpPpXoPoToXnOoPoToXnUoOpPpTpXoPoRpXoToXnYoPoToXmNAoPoXnBApPpTpXoIpEqPqXpPpTpXoOpP
pTpXoUpPpRqXpTpXoYpPpRqXpTpXnDApPpTpXoEpPpXoIpEqXpPpTpXoOpPpTpXoUpPpRqXpTpXnEoPoXnGApPpTpXoEpPpXoIE
qPqXoOpPpTpXoUOqTqXnIoEpPpXoPoToXnJIpEqPqTqXpPpTpXoOpPpTpXoUpOqXpPpRqXpXoYpPpRqXpTpXnOoPoToXnRApPpT
pXoEpPpTpXoOpPpXoUpPpRqXpTpXoYpPpRqXpTpXnUoOpPpXoPoRpXoToXnYIpEqPqTqXpPpTpXoOpPpTpXoUpOqPqXpPpTpX
nZApPpTpXoEpXoIpEqPqXpPpTpXoOPpXoUpOqXpPpRqXpXoYpPpRqXpTpXmOnPnTnXmPAoPoToXnIoEpPpXoPoToXnOoPoToXnU
oOpPpXoPoRpXoToXnYoPoRpXoToXmQIoEpPpTpXoPoToXnOoPoToXnUoOpPpTpXoPoRpXoToXnYoPoRpXoToXmRAoPoToXnEoP
oXnOoPoToXnRApXoEpPpTpXoOpPpTpXoUpOqXpPpRqXpTpXoYpPpRqXpTpXnUoOpPpXoPoRpXoToXnYoPoRpXoToXmSAoPoToX
nEoPoXnHApPpTpXoEpPpTpXoOpPpTpXoUpOqPqXpPpRqXpTpXoYpPpRqXpTpXnIoEpPpXoPoToXnOoPoToXnSApPpTpXoEpPpX
oIpEqPqXpPpTpXoOpPpTpXoUpPpTpXoYpPpRqXpTpXnUoOpPpXoPoRpXoToXnYoPoRpXoToXmTAoPoToXnEoPoXnIoEpPpXoPoT
oXnOoPoToXnUoOpPpTpXoPoRpXoToXmUOoPoXmVAoPoToXnEPoXnIoEpPpTpXoPoToXnOoPoToXnUoPoRpXoToXnYoPoRpXoToX
mWAoPoToXnEoPoXnOoPoXnUoOpPpXmXIoEpPpTpXoPoToXnOoPoToXnUOpXnYoPoRpXoToXmYIoEpPpTpXoPoToXnOoPoToXnU
oOpPpTpXoPoRpXoToXnYoPoRpXoToXmZAoPoToXnEoPoXnHApPpTpXoEpPpTpXoOpPpTpXoUpOqPqXpPpRqXpTpXoYpPpRqXpT
pXnIoEpPpXoPoToXnOoPoToXnUoOpPpXoPoRpXoToXnYoPoRpXoToXnZApPpTpXoEpPpXoIpEqPqTqXpPpTpXoOpPpXoUpPpRqX
pXoYpPpRqXpTpXcN YANGbO-YOaZ NOTATION BAG MEMBERSHIPlDOMAIN ANTIRESTRICTIONlLEFT BINDING BRACKET
qIMAGE BRACKETlRANGE ANTIRESTRICTIONmELATIONAL COMPOSITIONmIGHT BINDING BRACKETrIMAGE BRACKET
lSCHEMA COMPOSITIONsPIPINGtROJECTIONmPOTlTYPE COLONbANABAZAR SQUARE CLOSING DOUBLE-LINED HEAD MARK
zHEAD MARKtUSTER-FINAL LETTER LA<RA<VA<YAzINITIAL LETTER RArFINAL CONSONANT MARK
rINITIAL DOUBLE-LINED HEAD MARKzHEAD MARKrLETTER -AyAyBAzHAyCAzHAyDAzDA!HAzHAzZA!HAyGAzHAyHAyJAyKA
zHAzSSAyLAyMAyNAzGAzNAzYAyPAzHAyRAySAzHAzSAyTAzHAzSA!HAzTA!HAyVAyYAyZAzHArMARK DOUBLE SHAD
wLONG TSHEGwSHADwTSHEGrSIGN ANUSVARAwCANDRA WITH ORNAMENT%BINDU+ WITH ORNAMENTwVIRAMAySARGA
sUBJOINERrVOWEL LENGTH MARKxSIGN AI&U%E%I%O&E%REVERSED I%U&EbEBRA FACEcRO WIDTH JOINER
lNO-BREAK SPACEnN-JOINERlSPACEcUSbIPPER-MOUTH FACEbNAMENNY COMBINING ATTACHING VERTICAL OMET
tLOWER TONAL RANGE INDICATORtMARK BORZAYAyCHASHKA) POLNAYAzURVED OMETyDEMESTVENNY ZADERZHKA
zVOETOCHIEyGORAZDO NIZKO ON LEFT?RIGHT<S KRYZHEM ON LEFT~M ON RIGHT*VYSOKOyKACHKAzRYZH& ON LEFT
zUPNAYAyLOMKAyMALO POVYSHE ON LEFT>RIGHT;S KHOKHLOM ON LEFT~M ON RIGHT>RYZHEM<TRANNOyNIZKO ON LEFT
+RIGHT(S KRYZHEM ON LEFT^RIGHTyOBLACHKOzNzTSECHKAyPODCHASHIE, WITH VERTICAL STROKE$VERTKA
!VYSHE ON LEFT.RIGHT*S KHOKHLOM ON LEFT~RIGHT.RYZHEM+TRANNOyRAVNO!ZSEKAySKOBAzOROCHYA NOZHKA
zREDNE ON LEFT,RIGHTzTRANNO MALO POVYSHEyTIKHAYAzOCHKAzSATA ON LEFT+RIGHT(S KRYZHEMyUDARKA
yVYSOKO ON LEFT,RIGHT)S KHOKHLOM ON LEFT|RIGHT,RYZHEMyZADERZHKAzELO!VOKtTONAL RANGE MARK MRACHNO
:SVETLO:TRESVETLOjNEUME CHASHKArELYUSTKApDEMESTVENNY KLYUCHrRBITSAqOUBLE ZAPYATAYAqUDAqVA V CHELNU
pFITApGOLUBCHIK BORZYzMRACHNYzSVETLYzTIKHY!RESVETLYpKHAMILOqLYUCHqOBYLAqRYUKu TIKHYsZHqUFISMA
pMECHIKv KLYUCHENEPOSTOYANNY&POVODNY&VOYwPOVODNYpNEMKApOBLAKOqSOKAu KLYUCHEVAYA NEPOSTOYANNAYA
+SVETLAYAwRYUKOVAYA SVETLAYAvSVETLAYAvTRESVETLAYApPALKArRAKLITrUKqEREVODKAy NEPOSTOYANNAYA
qODCHASHIErLKULIZMYpREVERSED CHELYUSTKAqOGpSKAMEYTSA DVOECHELNAYA KLYUCHEVAYA<NEPOSTOYANNAYA
<PROSTAYA<SVETLAYAzKLYUCHENEPOSTOYANNAYA*VAYA SVETLAYA;TIKHAYAzMRACHNAYAzSVETLAYAzTIKHAYA
!RESVETLAYAqLOZHITIEy S KRYZHEM$ZAPYATOYzZAKRYTOEqTATYAv NEPOSTOYANNAYAwS DVUMYA ZAPYATYMIyKRYZHEM
) I ZAPYATOYyROGOMyZAPYATOY* I KRYZHEM.PODCHASHIEMwZAKRYTAYA) S ZAPYATOYrOPITSAx S OCHKOM
yWITH SOROCHYA NOZHKArRELA DVOECHELNAYA, KLYUCHEVAYA)OKRYZHEVAYA*POVODNAYA? KLYUCHEVAYAwGROMNAYA
( WITH SINGLE ZAPYATAYA!OKRYZHEVAYA; POVODNAYA$POVODNAYA: WITH DOUBLE ZAPYATAYA@SINGLE ZAPYATAYA
wKLYUCHENEPOSTOYANNAYA&POVODNAYAxRYUKOVAYA* GROMNAYA? WITH SINGLE ZAPYATAYA;OKRYZHEVAYA
~YA POVODNAYA<POVODNAYA~A WITH DOUBLE ZAPYATAYA~A WITH SINGLE ZAPYATAYA+POVODNAYA+TRYASKAzZHEVAYA
wMRACHNOTIKHAYAwNEPOSTOYANNAYAwPOLUPOVODNAYAyVODNAYAxROSTAYAwTIKHAYA PUTNAYAxRYASOGLASNAYA
%POVODNAYA%STRELNAYApVRAKHIYA KLYUCHEVAYA MRACHNAYA:PROSTAYA:SVETLAYA:TRESVETLAYAyMRACHNAYA
yPROSTAYAySVETLAYAyTRESVETLAYApZANOZHEKrPYATAYAqMEYTSAjPRIZNAK MODIFIER DIRECTION FLIP!KRYZH
!LEVEL-2*3!ROGbOMBIEbWJcNBSPdJcSP"

end Restyle.Text
