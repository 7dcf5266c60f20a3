import Restyle.Proofs.KeptCopies

/-!
Retention. After every backup the history of the file is the end of what it was: just those records
that have few enough behind them and are not too old. The copies of the others are gone and theirs
are as they were. The record of the backup itself is among them unless copies are kept for a
negative time.
-/
namespace Restyle

open Restyle.Tree BackupEntry

namespace Backups

/-! ### What is retained of records -/

/-- Whether of some records just those are kept that have fewer than `count` behind them and are not
older than the cutoff, which are the last ones of them. -/
structure AreRetained (count cutoff : Int) (all kept : List BackupEntry) : Prop where
  ending : kept <:+ all
  length_le : (kept.length : Int) ≤ count
  mem_iff : ∀ older e newer, all = older ++ e :: newer →
    (e ∈ kept ↔ (newer.length : Int) < count ∧ cutoff ≤ e.timestamp)

variable {b b' : Backups} {t t' : Tree} {W R : Path → Prop} {es kept : List BackupEntry}

/-- The young ones of records that rise are the last ones. -/
theorem young_suffix (h : es.Pairwise fun e e' => e.timestamp < e'.timestamp) (cutoff : Int) :
    (es.filter fun e => !decide (e.timestamp < cutoff)) <:+ es := by
  induction es with
  | nil => exact List.suffix_refl _
  | cons e es ih =>
    obtain ⟨hafter, hes⟩ := List.pairwise_cons.1 h
    by_cases hold : e.timestamp < cutoff
    · rw [List.filter_cons_of_neg (by simp [hold])]
      exact (ih hes).trans (List.suffix_cons e es)
    · have hall : ((e :: es).filter fun e => !decide (e.timestamp < cutoff)) = e :: es := by
        refine List.filter_eq_self.2 fun e' he' => ?_
        rcases List.mem_cons.1 he' with rfl | he'
        · simp [hold]
        · have hlt := hafter e' he'
          have hyoung : ¬ e'.timestamp < cutoff := by omega
          simp [hyoung]
      exact hall.symm ▸ List.suffix_refl _

/-- Of records that differ, one is left by a cut just if it stands behind it. -/
theorem mem_drop_iff {older newer : List BackupEntry} {e : BackupEntry}
    (h : (older ++ e :: newer).Pairwise fun e e' => e.timestamp < e'.timestamp) (n : Nat) :
    e ∈ (older ++ e :: newer).drop n ↔ n ≤ older.length := by
  constructor
  · intro hmem
    by_contra hlong
    rw [List.drop_append, List.drop_eq_nil_of_le (by omega), List.nil_append] at hmem
    have hnewer : e ∈ newer := by
      have hpositive : n - older.length ≠ 0 := by omega
      obtain ⟨k, hk⟩ := Nat.exists_eq_succ_of_ne_zero hpositive
      rw [hk, List.drop_succ_cons] at hmem
      exact List.mem_of_mem_drop hmem
    have hlt := (List.pairwise_cons.1 (List.pairwise_append.1 h).2.1).1 e hnewer
    omega
  · intro hle
    rw [List.drop_append_of_le_length hle]
    exact List.mem_append_right _ List.mem_cons_self

/-- What pruning keeps, where the number of copies is a whole one. -/
theorem prune_retains {settings : Settings} {m : Int}
    (hm : settings.value "max_backups" = .int m) {now : Clock}
    (hrising : es.Pairwise fun e e' => e.timestamp < e'.timestamp)
    (h : prune settings now t es = (.ok kept, t')) :
    ∃ keep, keepMillis settings = .ok keep ∧
      AreRetained (max m 1) (now.millis - keep) es kept := by
  have hp := prune_cases settings now t es
  rw [h] at hp
  cases hp with
  | @kept n keep t1 t2 count first age second =>
    unfold excess at count
    rw [hm] at count
    obtain rfl := (Except.ok.inj count).symm
    refine ⟨keep, age, ?_, ?_, ?_⟩
    · exact (young_suffix (hrising.drop) _).trans (List.drop_suffix _ _)
    · have hle := List.length_filter_le (fun e => !decide (e.timestamp < now.millis - keep))
        (es.drop ((es.length : Int) - max m 1).toNat)
      rw [List.length_drop] at hle
      omega
    · rintro older e newer rfl
      rw [List.mem_filter, mem_drop_iff hrising, List.length_append, List.length_cons]
      simp only [Bool.not_eq_true', decide_eq_false_iff_not, Int.not_lt]
      refine and_congr_left' ?_
      omega

/-! ### Copies of dropped records -/

/-- The copies of records that are not kept are gone, if they could be reached. -/
theorem prune_gone {settings : Settings} {now : Clock}
    (h : prune settings now t es = (.ok kept, t')) {e : BackupEntry} (he : e ∈ es)
    (hdropped : e ∉ kept) {c : Path} {n : Option Node} (hcopy : copyOf e = .ok (some c))
    (hfound : t.find c = .ok (c.resolve, n)) : t'.file? c.resolve = none := by
  have hthere {R : Path → Prop} {t1 : Tree} (hc : Changes nowhere R t t1) :
      t1.file? c.resolve = none ∨ ∃ bytes, t1.find c = .ok (c.resolve, some (.file bytes)) := by
    cases hfile : t1.file? c.resolve with
    | none => exact .inl rfl
    | some bytes => exact .inr ⟨bytes, find_of_file? (hc.find hfound) hfile⟩
  have hp := prune_cases settings now t es
  rw [h] at hp
  cases hp with
  | @kept n keep t1 t2 count first age second =>
    rw [← List.take_append_drop n es] at he
    rcases List.mem_append.1 he with he | he
    · have hgone := removeCopies_gone first he hcopy (hthere (R := nowhere) (.refl t))
      exact removeCopies_none second hgone
    · have hold : e.timestamp < now.millis - keep := by
        by_contra hyoung
        exact hdropped (List.mem_filter.2 ⟨he, by simp [hyoung]⟩)
      have hc := removeCopies_changes (W := nowhere) t (es.take n)
      rw [first] at hc
      exact removeCopies_gone second (List.mem_filter.2 ⟨he, by simp [hold]⟩) hcopy (hthere hc)

/-! ### Copies that can be reached -/

/-- Whether the way to the copy of each record of a file is open. Copies come and go, directories
stay. -/
def Reaches (b : Backups) (t : Tree) (file : Path) : Prop :=
  ∀ e ∈ recordsOf b.index file, ∃ n,
    t.find (b.copyPath file e.timestamp) = .ok (b.copyPlace file e.timestamp, n)

variable {file : Path} {l : CopyLog}

/-- A step after which each record has the timestamp of one before. -/
theorem Reaches.congr (h : b.Reaches t file) (hr : b'.root = b.root)
    (hd : b'.directory = b.directory)
    (hrecords : ∀ e' ∈ recordsOf b'.index file, ∃ e ∈ recordsOf b.index file,
      e'.timestamp = e.timestamp) (hc : Changes W R t t') : b'.Reaches t' file := by
  intro e' he'
  obtain ⟨e, he, htimestamp⟩ := hrecords e' he'
  obtain ⟨n, hfind⟩ := h e he
  rw [htimestamp, copyPath_congr hr hd, copyPlace_congr hr hd]
  exact ⟨_, hc.find hfind⟩

/-- What is done besides making a backup makes no records. -/
theorem Act.records (h : Act W b t b' t') (hs : b.IsStore t) (hb : b.IsBehind t file)
    (hf : file.IsPlace) (hm : ¬ W b.manifestPath.resolve) :
    b'.IsBehind t' file ∧ (∀ e' ∈ recordsOf b'.index file, ∃ e ∈ recordsOf b.index file,
      e'.timestamp = e.timestamp) ∧ ∃ W' R', Changes W' R' t t' := by
  have hsame : ∀ e ∈ recordsOf b.index file, ∃ e' ∈ recordsOf b.index file,
      e.timestamp = e'.timestamp := fun e he => ⟨e, he, rfl⟩
  cases h with
  | restore path timestamp legible within done =>
    have hc : Changes W nowhere t t' :=
      (restore_changes legible done).mono (fun q hq => hq ▸ within) fun _ h => h
    exact ⟨hb.congr rfl rfl (List.prefix_refl _) hc hm fun h => h, hsame, _, _, hc⟩
  | record path legible bytes =>
    refine ⟨recordWrite_behind hs hb hf legible bytes, fun e he => ?_, _, _,
      recordWrite_changes hs.rooted t path bytes⟩
    obtain ⟨e', he', htimestamp, -⟩ := recordWrite_records b t hf legible bytes e he
    exact ⟨e', he', htimestamp⟩
  | clear =>
    have hnil : recordsOf (b.clear t).1.index file = [] := rfl
    refine ⟨(clear_mirrored hs hb.unspoilt).isBehind hf, fun e he => ?_, _, _,
      (clear_works hs).changes⟩
    rw [hnil] at he
    cases he
  | settings settings =>
    have hc : Changes nowhere nowhere t t := .refl t
    exact ⟨hb.congr rfl rfl (List.prefix_refl _) hc (fun h => h) fun h => h, hsame, _, _, hc⟩
  | edit changes =>
    exact ⟨hb.congr rfl rfl (List.prefix_refl _) changes hm hm, hsame, _, _, changes⟩
  | reopen settings loaded same =>
    have hl := load_eq_ok hs.rooted.root.isPlain.isLegible loaded
    have hc : Changes nowhere nowhere t t' := hl.changes hs.rooted.root
    obtain ⟨hbehind, hrecords⟩ := hl.behind same hs hb
    refine ⟨hbehind, fun e' he' => ?_, _, _, hc⟩
    obtain ⟨e, he, halike⟩ := hrecords e' he'
    exact ⟨e, he, halike.timestamp⟩

variable {now : Readings} {path : Path} {reason : String} {bytes : ByteArray} {t1 : Tree}

/-- The copies of the records of a file and the one that was just made can be reached. -/
theorem grown_reached (h : b.IsStore t) (hr : b.Reaches t path.resolve) (hp : path.IsLegible)
    (copied : writeCopy t (b.copyPath path.resolve (b.stamp path now)) bytes = (.ok (), t1)) :
    ∀ e ∈ b.history path ++ [b.entryFor path.resolve (b.stamp path now) reason bytes], ∃ n,
      t1.find (b.copyPath path.resolve e.timestamp) =
        .ok (b.copyPlace path.resolve e.timestamp, n) := by
  have hlegible := isLegible_copyPath h.rooted hp.resolve (b.stamp path now)
  have hc := writeCopy_changes (R := nowhere) t hlegible bytes
  rw [copied] at hc
  intro e he
  rcases List.mem_append.1 he with he | he
  · obtain ⟨n, hfind⟩ := hr e he
    exact ⟨_, hc.find hfind⟩
  · have hfind := find_of_writeCopy hlegible copied
    rw [resolve_copyPath b hp.resolve] at hfind
    rw [List.mem_singleton.1 he]
    exact ⟨_, hfind⟩

theorem create_reaches (h : b.IsStore t) (hr : b.Reaches t path.resolve) (now : Readings)
    (hp : path.IsLegible) (reason : String) :
    (b.create t now path reason).2.1.Reaches (b.create t now path reason).2.2 path.resolve := by
  have hplace := hp.resolve
  have hempty : (b.withoutEmpty path.resolve.text).Reaches t path.resolve := by
    unfold Reaches
    rw [recordsOf_withoutEmpty h.index]
    exact hr
  have hgrown {bytes : ByteArray} {t1 t2 : Tree} {es : List BackupEntry}
      (copied : writeCopy t (b.copyPath path.resolve (b.stamp path now)) bytes = (.ok (), t1))
      (hes : es.Sublist (b.history path ++
        [b.entryFor path.resolve (b.stamp path now) reason bytes]))
      {W R : Path → Prop} (hc : Changes W R t1 t2) :
      (b.withHistory path es).Reaches t2 path.resolve := by
    unfold withHistory Reaches
    rw [recordsOf_assign hplace hplace, if_pos rfl]
    intro e he
    obtain ⟨n, hfind⟩ := grown_reached h hr hp copied e (hes.mem he)
    exact ⟨_, hc.find hfind⟩
  have hcases := b.create_cases t now path reason
  revert hcases
  generalize b.create t now path reason = r
  intro hcases
  cases hcases with
  | refused => exact hr
  | unreadable => exact hempty
  | @uncopied bytes e t' read copied =>
    have hc : Changes nowhere nowhere t t' :=
      writeCopy_refused (isLegible_copyPath h.rooted hplace _) copied
    exact hempty.congr rfl rfl (fun e he => ⟨e, he, rfl⟩) hc
  | @unpruned f bytes t1 t2 checked read copied pruned =>
    have hc := prune_changes (W := nowhere) b.settings now.sweep t1 (b.history path ++
      [b.entryFor path.resolve (b.stamp path now) reason bytes])
    rw [pruned] at hc
    exact hgrown copied (List.Sublist.refl _) hc
  | @made bytes t1 t2 kept available checked read copied pruned =>
    have hc := prune_changes (W := (· = b.manifestPath.resolve)) b.settings now.sweep t1
      (b.history path ++ [b.entryFor path.resolve (b.stamp path now) reason bytes])
    rw [pruned] at hc
    exact hgrown copied (prune_sublist pruned)
      (hc.trans (saveIndex_changes (h.rooted.withHistory path kept) t2))

/-- Through a whole run in which the manifest is written by the store alone the copies of a file
can be reached. -/
theorem Logged.reaches (h : Logged W file b t l) (hf : file.IsPlace)
    (hm : ¬ W b.manifestPath.resolve) :
    b.IsStore t ∧ b.IsBehind t file ∧ b.Reaches t file := by
  induction h with
  | opened opened =>
    obtain ⟨hs, hindex, hnone⟩ := opened.isStore
    refine ⟨hs, .inr hnone, ?_⟩
    unfold Reaches
    rw [hindex]
    exact fun e he => absurd he List.not_mem_nil
  | @create b t l before now path reason legible here ih =>
    have hframe := create_frame b t now path reason
    have hd : (b.create t now path reason).2.1.directory = b.directory := by rw [hframe]
    obtain ⟨hs, hb, hr⟩ := ih (manifestPath_congr hd ▸ hm)
    subst here
    exact ⟨(create_works (Q := fun _ => True) hs now legible trivial reason).store,
      create_behind hs hb hf now legible reason, create_reaches hs hr now legible reason⟩
  | @other b t l before now path reason legible elsewhere ih =>
    have hframe := create_frame b t now path reason
    have hd : (b.create t now path reason).2.1.directory = b.directory := by rw [hframe]
    obtain ⟨hs, hb, hr⟩ := ih (manifestPath_congr hd ▸ hm)
    have hw := create_works (Q := (· = path.resolve)) hs now legible rfl reason
    have hrecords := hw.records file hf fun e => elsewhere e.symm
    refine ⟨hw.store, create_behind hs hb hf now legible reason,
      hr.congr hw.root hw.directory (fun e he => ?_) hw.changes⟩
    exact ⟨e, hrecords ▸ he, rfl⟩
  | act before act ih =>
    obtain ⟨hroot, hd⟩ := act.frame
    rw [manifestPath_congr hd] at hm
    obtain ⟨hs, hb, hr⟩ := ih hm
    obtain ⟨hbehind, hrecords, W', R', hc⟩ := act.records hs hb hf hm
    exact ⟨act.isStore hs hm, hbehind, hr.congr hroot hd hrecords hc⟩

/-! ### The project of one source file again -/

/-- No more than one copy is to be kept, and for no time. -/
def frugal : Settings :=
  Section.modification.defaults.apply [("max_backups", .int 0), ("auto_cleanup_days", .int 0)]

/-- Copies are to be kept for a negative time. -/
def sweeping : Settings :=
  Section.modification.defaults.apply [("auto_cleanup_days", .int (-1))]

/-- A store that goes by other settings from then on. -/
def resettled (s : Backups × Tree) (settings : Settings) : Backups × Tree :=
  ({ s.1 with settings }, s.2)

theorem Logged.resettled {s : Backups × Tree} (h : Logged W file s.1 s.2 l)
    (settings : Settings) :
    Logged W file (resettled s settings).1 (resettled s settings).2 l :=
  h.act (.settings settings)

theorem exists_of_create {reason : String} (h : (b.create t now path reason).1.isOk = true) :
    ∃ e, b.create t now path reason =
      (.ok e, (b.create t now path reason).2.1, (b.create t now path reason).2.2) := by
  obtain ⟨e, he⟩ := exists_of_isOk h
  exact ⟨e, Prod.ext he rfl⟩

/-- Whether a record names a copy that is not there. -/
def isGone (t : Tree) (e : BackupEntry) : Bool :=
  match copyOf e with
  | .ok (some copy) => (t.read copy).toOption.isNone
  | _ => false

theorem exists_of_isGone {e : BackupEntry} (h : isGone t e = true) :
    ∃ copy, copyOf e = .ok (some copy) ∧ (t.read copy).toOption = none := by
  unfold isGone at h
  split at h
  · next copy hcopy => exact ⟨copy, hcopy, Option.isNone_iff_eq_none.1 h⟩
  · cases h

/-- The store after two backups that have failed. -/
theorem tornStore_logged :
    ∃ l, Logged (fun q => ¬ tornStore.1.place <+: q) source tornStore.1 tornStore.2 l := by
  have hvalues : (load sourceTree ["w"] tearing).isOk = true ∧
      sourceTree.file? (begun sourceTree tearing).1.manifestPath.resolve = none := by
    decide +kernel
  have hbegun : Logged (fun q => ¬ tornStore.1.place <+: q) source (begun sourceTree tearing).1
      (begun sourceTree tearing).2 .empty :=
    .opened (begun_opened sourceTree_isProper hvalues.1 hvalues.2)
  exact ⟨_, hbegun.backedUp.backedUp⟩

/-- The store after one backup of the source. -/
theorem copiedOnce_logged :
    Logged (fun q => ¬ copiedOnce.1.place <+: q) source copiedOnce.1 copiedOnce.2 sourceLog :=
  Logged.backedUp (.opened newStore_opened)

theorem resettled_isStore (settings : Settings) :
    (resettled copiedOnce settings).1.IsStore (resettled copiedOnce settings).2 :=
  ((copiedOnce_logged.resettled settings).reaches source_isPlace
    (spares_outside copiedOnce.1 source).1).1

/-! ### What a backup leaves -/

theorem toOption_read {c q : Path} {n : Option Node} (h : t.find c = .ok (q, n)) :
    (t.read c).toOption = t.file? q := by
  unfold Tree.read file?
  rw [h, node?_of_find h]
  cases n with
  | none => rfl
  | some n => cases n <;> rfl

/-- Pruning takes the copies of the records that it drops, and leaves those of the others. -/
theorem prune_file? (hb : b.IsRooted) (hf : file.IsPlace) (hes : ∀ e ∈ es, b.IsRecord file e)
    (hrising : es.Pairwise fun e e' => e.timestamp < e'.timestamp) {settings : Settings}
    {now : Clock} (h : prune settings now t es = (.ok kept, t')) {e : BackupEntry} (he : e ∈ es)
    {n : Option Node} (hfind : t.find (b.copyPath file e.timestamp) =
      .ok (b.copyPlace file e.timestamp, n)) :
    (e ∉ kept → t'.file? (b.copyPlace file e.timestamp) = none) ∧
      (e ∈ kept → t'.file? (b.copyPlace file e.timestamp) =
        t.file? (b.copyPlace file e.timestamp)) := by
  have hcopy := (hes e he).copyOf_eq hb hf
  have hresolve := resolve_copyPath b hf e.timestamp
  constructor
  · intro hdropped
    rw [← hresolve] at hfind ⊢
    exact prune_gone h he hdropped hcopy hfind
  · intro hkept
    refine (prune_kept_changes (W := nowhere) hrising h).file? (fun h => h) ?_
    rintro ⟨e', he', hdropped, hat⟩
    have hsame := timestamp_of_copyPlace ((hes e' he').isAt hb hf hat)
    rw [← eq_of_timestamp hrising he he' hsame] at hdropped
    exact hdropped hkept

/-- What a backup leaves of the records of a file and of their copies, if `count` of them may be
kept: just the ones that are retained, with their copies as they were and that of the backup with
what the file has. -/
structure Retains (b : Backups) (t : Tree) (now : Readings) (path : Path) (count : Int)
    (e : BackupEntry) (b' : Backups) (t' : Tree) : Prop where
  records : ∃ keep, keepMillis b.settings = .ok keep ∧
    AreRetained count (now.sweep.millis - keep) (b.history path ++ [e]) (b'.history path)
  dropped : ∀ x ∈ b.history path ++ [e], x ∉ b'.history path → ∃ copy,
    copyOf x = .ok (some copy) ∧ (t'.read copy).toOption = none
  kept : ∀ x ∈ b.history path, x ∈ b'.history path → ∃ copy,
    copyOf x = .ok (some copy) ∧ (t'.read copy).toOption = (t.read copy).toOption
  made : e ∈ b'.history path → ∃ copy,
    copyOf e = .ok (some copy) ∧ (t'.read copy).toOption = (t.read path.resolve).toOption

variable {e : BackupEntry}

theorem history_withHistory (b : Backups) (hp : path.IsLegible) (es : List BackupEntry) :
    (b.withHistory path es).history path = es := by
  have hrecords : (b.withHistory path es).history path =
    recordsOf (assign path.resolve.text es b.index) path.resolve := rfl
  rw [hrecords, recordsOf_assign hp.resolve hp.resolve, if_pos rfl]

/-- Saving the records leaves what pruning has left of the copies: those of dropped records are
gone, and the others are there as they were. -/
theorem read_created (h : b.IsStore t) (hp : path.IsLegible)
    (read : t.read path.resolve = .ok bytes)
    (copied : writeCopy t (b.copyPath path.resolve (b.stamp path now)) bytes = (.ok (), t1))
    (pruned : prune b.settings now.sweep t1 (b.history path ++
      [b.entryFor path.resolve (b.stamp path now) reason bytes]) = (.ok kept, t'))
    {x : BackupEntry} (hx : x ∈ b.history path ++
      [b.entryFor path.resolve (b.stamp path now) reason bytes]) {n : Option Node}
    (hfind : t1.find (b.copyPath path.resolve x.timestamp) =
      .ok (b.copyPlace path.resolve x.timestamp, n)) :
    copyOf x = .ok (some (b.copyPath path.resolve x.timestamp)) ∧
      (x ∉ kept → (((b.withHistory path kept).saveIndex t').read
        (b.copyPath path.resolve x.timestamp)).toOption = none) ∧
      (x ∈ kept → (((b.withHistory path kept).saveIndex t').read
        (b.copyPath path.resolve x.timestamp)).toOption =
          t1.file? (b.copyPlace path.resolve x.timestamp)) := by
  obtain ⟨hes, hrising⟩ := grown_records h hp reason read copied
  have hpruned := prune_kept_changes (W := nowhere) hrising pruned
  have hsaved := saveIndex_changes (R := nowhere) (h.rooted.withHistory path kept) t'
  have hleft := prune_file? h.rooted hp.resolve hes hrising pruned hx hfind
  rw [toOption_read (hsaved.find (hpruned.find hfind)),
    hsaved.file? (copyPlace_ne_manifest b _ _) fun h => h]
  exact ⟨(hes x hx).copyOf_eq h.rooted hp.resolve, hleft.1, hleft.2⟩

theorem create_retains (h : b.IsStore t) (hr : b.Reaches t path.resolve) (hp : path.IsLegible)
    {m : Int} (hm : b.settings.value "max_backups" = .int m)
    (hc : b.create t now path reason = (.ok e, b', t')) :
    b.Retains t now path (max m 1) e b' t' := by
  have hplace := hp.resolve
  have hcases := b.create_cases t now path reason
  rw [hc] at hcases
  cases hcases with
  | @made bytes t1 t2 kept available checked read copied pruned =>
    obtain ⟨-, hrising⟩ := grown_records h hp reason read copied
    have hreached : ∀ x ∈ b.history path ++
        [b.entryFor path.resolve (b.stamp path now) reason bytes], ∃ n,
        t1.find (b.copyPath path.resolve x.timestamp) =
          .ok (b.copyPlace path.resolve x.timestamp, n) := grown_reached h hr hp copied
    have hlegible := isLegible_copyPath h.rooted hplace (b.stamp path now)
    have hhistory : (b.withHistory path kept).history path = kept := history_withHistory b hp kept
    constructor <;> rw [hhistory]
    · exact prune_retains hm hrising pruned
    · intro x hx hdropped
      obtain ⟨n, hfind⟩ := hreached x hx
      obtain ⟨hcopy, hgone, -⟩ := read_created h hp read copied pruned hx hfind
      exact ⟨_, hcopy, hgone hdropped⟩
    · intro x hx hkept
      have hgrown := List.mem_append_left
        [b.entryFor path.resolve (b.stamp path now) reason bytes] hx
      obtain ⟨n, hfind⟩ := hreached x hgrown
      obtain ⟨n', hbefore⟩ := hr x hx
      obtain ⟨hcopy, -, hthere⟩ := read_created h hp read copied pruned hgrown hfind
      refine ⟨_, hcopy, ?_⟩
      rw [hthere hkept, toOption_read hbefore]
      have hwritten := writeCopy_changes (R := nowhere) t hlegible bytes
      rw [copied, resolve_copyPath b hplace] at hwritten
      refine hwritten.file? (fun heq => ?_) fun h => h
      have hlt : x.timestamp < b.stamp path now :=
        lt_nextTimestamp (h.index.pairwise path.resolve) now.stamp hx
      have htimestamp := timestamp_of_copyPlace heq
      omega
    · intro hkept
      have hfind := find_of_writeCopy hlegible copied
      rw [resolve_copyPath b hplace] at hfind
      obtain ⟨hcopy, -, hthere⟩ := read_created h hp read copied pruned
        (List.mem_append_right _ (List.mem_singleton_self _)) hfind
      refine ⟨_, hcopy, (hthere hkept).trans ?_⟩
      rw [read]
      exact file?_of_find hfind

/-- After any run a backup that is made leaves as history of the file the end of what it was: just
those records that have few enough behind them and are not too old. The copies of the others are
gone, and theirs are as they were: each has what the file had when it was made, unless a backup that
failed has taken it away before. -/
theorem history_pruned (h : Logged W path.resolve b t l) (hp : path.IsLegible)
    (hW : b.Spares W path.resolve) {m : Int} (hm : b.settings.value "max_backups" = .int m)
    (hc : b.create t now path reason = (.ok e, b', t')) :
    b.Retains t now path (max m 1) e b' t' ∧
      (b.IsWithin path.resolve → ∀ x ∈ b'.history path, ∃ copy bytes,
        copyOf x = .ok (some copy) ∧ (l.after b t now path (.ok e)).bytes x.timestamp = some bytes ∧
        (t'.read copy).toOption =
          if (l.after b t now path (.ok e)).torn x.timestamp then none else some bytes) := by
  obtain ⟨hs, -, hr⟩ := h.reaches hp.resolve hW.1
  refine ⟨create_retains hs hr hp hm hc, fun hf x hx => ?_⟩
  have hframe := create_frame b t now path reason
  have hlogged := h.create now reason hp rfl
  have hroot : (b.create t now path reason).2.1.root = b.root := by rw [hframe]
  have hd : (b.create t now path reason).2.1.directory = b.directory := by rw [hframe]
  rw [hc] at hlogged hroot hd
  have hhistory : b'.history path = b'.history path.resolve := by
    rw [history_eq hp.resolve]
    rfl
  obtain ⟨-, hcopies⟩ := history_has_copies hlogged (hf.congr hroot) (hW.congr hroot hd)
  obtain ⟨copy, bytes, hcopy, hbytes, -, hread⟩ := hcopies x (hhistory ▸ hx)
  exact ⟨copy, bytes, hcopy, hbytes, hread⟩

/-- The copy of the backup before is dropped where there may be one alone. -/
theorem history_pruned_frugal : ∃ e b' t',
    (resettled copiedOnce frugal).1.create (resettled copiedOnce frugal).2 .zero source "" =
      (.ok e, b', t') ∧
    ((resettled copiedOnce frugal).1.history source).length = 1 ∧
    (b'.history source).map (·.timestamp) = [1] ∧
    (resettled copiedOnce frugal).1.Retains (resettled copiedOnce frugal).2 .zero source (max 0 1)
      e b' t' ∧
    ((resettled copiedOnce frugal).1.IsWithin source → ∀ x ∈ b'.history source, ∃ copy bytes,
      copyOf x = .ok (some copy) ∧
      (sourceLog.after (resettled copiedOnce frugal).1 (resettled copiedOnce frugal).2 .zero source
        (.ok e)).bytes x.timestamp = some bytes ∧
      (t'.read copy).toOption =
        if (sourceLog.after (resettled copiedOnce frugal).1 (resettled copiedOnce frugal).2 .zero
          source (.ok e)).torn x.timestamp then none else some bytes) := by
  have hvalues : ((resettled copiedOnce frugal).1.create (resettled copiedOnce frugal).2 .zero
        source "").1.isOk = true ∧
      ((resettled copiedOnce frugal).1.history source).length = 1 ∧
      (((resettled copiedOnce frugal).1.create (resettled copiedOnce frugal).2 .zero source
        "").2.1.history source).map (·.timestamp) = [1] := by
    decide +kernel
  obtain ⟨hok, hone, hkept⟩ := hvalues
  obtain ⟨e, hc⟩ := exists_of_create hok
  have hsource : source.resolve = source := Path.resolve_of_isPlace source_isPlace
  obtain ⟨hretains, hcopies⟩ := history_pruned (m := 0)
    (hsource.symm ▸ copiedOnce_logged.resettled frugal) source_isPlace.isPlain.isLegible
    (hsource.symm ▸ spares_outside _ _) rfl hc
  exact ⟨e, _, _, hc, hone, hkept, hretains, hsource ▸ hcopies⟩

/-- Where a backup has failed before, one that is made keeps a record of which it took the copy
away. -/
theorem history_pruned_torn : ∃ (b : Backups) (t : Tree) (l : CopyLog) (e : BackupEntry)
    (b' : Backups) (t' : Tree),
    Logged (fun q => ¬ b.place <+: q) source b t l ∧ b.IsWithin source ∧
      b.settings.value "max_backups" = .int 10 ∧
      b.settings.value "auto_cleanup_days" = .real (.finite 7) ∧
      b.create t .zero source "" = (.ok e, b', t') ∧
      ∃ x ∈ b'.history source, ∃ copy, copyOf x = .ok (some copy) ∧
        (t'.read copy).toOption = none := by
  have hvalues : tornStore.1.root = ["w"] ∧
      ((resettled tornStore Section.modification.defaults).1.create
        (resettled tornStore Section.modification.defaults).2 .zero source "").1.isOk = true ∧
      (((resettled tornStore Section.modification.defaults).1.create
        (resettled tornStore Section.modification.defaults).2 .zero source "").2.1.history
          source).any (isGone ((resettled tornStore Section.modification.defaults).1.create
          (resettled tornStore Section.modification.defaults).2 .zero source "").2.2) = true := by
    decide +kernel
  obtain ⟨hroot, hok, hany⟩ := hvalues
  obtain ⟨l, hlogged⟩ := tornStore_logged
  obtain ⟨e, hc⟩ := exists_of_create hok
  obtain ⟨x, hx, hgone⟩ := List.any_eq_true.1 hany
  exact ⟨(resettled tornStore Section.modification.defaults).1, _, l, e, _, _, hlogged.resettled _,
    source_isWithin hroot, rfl, rfl, hc, x, hx, exists_of_isGone hgone⟩

/-! ### The copy that a backup has just made -/

/-- The newest record is kept as the last one, or it is too old, and then none is kept. -/
theorem prune_young {settings : Settings} {now : Clock} {old : List BackupEntry}
    (hrising : ∀ e' ∈ old, e'.timestamp < e.timestamp)
    (h : prune settings now t (old ++ [e]) = (.ok kept, t')) :
    ∃ keep, keepMillis settings = .ok keep ∧
      (now.millis - keep ≤ e.timestamp → kept.getLast? = some e) ∧
      (e.timestamp < now.millis - keep → kept = []) := by
  have hp := prune_cases settings now t (old ++ [e])
  rw [h] at hp
  cases hp with
  | @kept n keep t1 t2 count first age second =>
    refine ⟨keep, age, fun hyoung => ?_,
      filter_young_eq_nil (List.drop_sublist _ _) hrising⟩
    refine (prune_keeps (W := nowhere) (fun keep' hkeep' => ?_) h).1
    obtain rfl := Except.ok.inj (age.symm.trans hkeep')
    exact Int.not_lt.2 hyoung

/-- A backup that is made is the latest one of the file and its copy is there with what the file
has, just if the time for which copies are kept reaches back to it when the old ones are looked for;
else nothing is left of the history, and the copy is gone. It does reach back if it is no negative
time and none has passed since the timestamp was taken. -/
theorem create_newest_iff (h : b.IsStore t) (hp : path.IsLegible)
    (hc : b.create t now path reason = (.ok e, b', t')) :
    ∃ keep copy bytes, keepMillis b.settings = .ok keep ∧ copyOf e = .ok (some copy) ∧
      t.read path.resolve = .ok bytes ∧
      (now.sweep.millis - keep ≤ e.timestamp →
        b'.latest? path = some e ∧ (t'.read copy).toOption = some bytes) ∧
      (e.timestamp < now.sweep.millis - keep →
        b'.history path = [] ∧ (t'.read copy).toOption = none) ∧
      (keepsDays b.settings → now.IsPrompt → now.sweep.millis - keep ≤ e.timestamp) := by
  have hplace := hp.resolve
  have hcases := b.create_cases t now path reason
  rw [hc] at hcases
  cases hcases with
  | @made bytes t1 t2 kept available checked read copied pruned =>
    have hfind := find_of_writeCopy (isLegible_copyPath h.rooted hplace _) copied
    rw [resolve_copyPath b hplace] at hfind
    obtain ⟨hcopy, hgone, hthere⟩ := read_created h hp read copied pruned
      (List.mem_append_right _ (List.mem_singleton_self _)) hfind
    obtain ⟨keep, hkeep, hyoung, hold⟩ := prune_young
      (fun e' he' => lt_nextTimestamp (h.index.pairwise path.resolve) now.stamp he') pruned
    have hhistory : (b.withHistory path kept).history path = kept := history_withHistory b hp kept
    refine ⟨keep, _, bytes, hkeep, hcopy, read, fun hage => ⟨?_, ?_⟩, fun hage => ⟨?_, ?_⟩,
      fun hdays hprompt => ?_⟩
    · unfold latest?
      rw [hhistory]
      exact hyoung hage
    · exact (hthere (List.mem_of_getLast? (hyoung hage))).trans (file?_of_find hfind)
    · exact hhistory.trans (hold hage)
    · refine hgone ?_
      rw [hold hage]
      exact List.not_mem_nil
    · have hnonneg := keepMillis_nonneg hdays hkeep
      have hnow : now.sweep.millis ≤ b.stamp path now :=
        Int.le_trans hprompt (le_nextTimestamp (b.history path) now.stamp)
      have hstamp : (b.entryFor path.resolve (b.stamp path now) reason bytes).timestamp =
        b.stamp path now := rfl
      omega

/-- So it is where a single copy is kept for no time. -/
theorem create_newest_frugal : ∃ e b' t' copy bytes,
    (resettled copiedOnce frugal).1.create (resettled copiedOnce frugal).2 .zero source "" =
      (.ok e, b', t') ∧
    b'.latest? source = some e ∧ copyOf e = .ok (some copy) ∧
    (resettled copiedOnce frugal).2.read source = .ok bytes ∧
    (t'.read copy).toOption = some bytes := by
  have hvalues : ((resettled copiedOnce frugal).1.create (resettled copiedOnce frugal).2 .zero
      source "").1.isOk = true := by
    decide +kernel
  obtain ⟨e, hc⟩ := exists_of_create hvalues
  have hsource : source.resolve = source := Path.resolve_of_isPlace source_isPlace
  obtain ⟨keep, copy, bytes, -, hcopy, hread, hlatest, -, hdays⟩ :=
    create_newest_iff (resettled_isStore frugal) source_isPlace.isPlain.isLegible hc
  obtain ⟨hlast, hbytes⟩ := hlatest (hdays ⟨.finite 0, rfl, rfl⟩ (Readings.isPrompt_still _))
  exact ⟨e, _, _, copy, bytes, hc, hlast, hcopy, hsource ▸ hread, hbytes⟩

/-- Whether another backup is made, but then there is no record and no copy of it. -/
def LosesCopy (settings : Settings) (now : Readings) : Prop := ∃ e b' t' copy,
  (resettled copiedOnce settings).1.IsStore (resettled copiedOnce settings).2 ∧
  (resettled copiedOnce settings).1.create (resettled copiedOnce settings).2 now source "" =
    (.ok e, b', t') ∧
  b'.latest? source ≠ some e ∧ copyOf e = .ok (some copy) ∧ (t'.read copy).toOption = none

theorem losesCopy_of_create {settings : Settings} {now : Readings}
    {r : Except Problem BackupEntry × Backups × Tree}
    (hr : (resettled copiedOnce settings).1.create (resettled copiedOnce settings).2 now source "" =
      r)
    (hlost : (r.2.1.latest? source).isNone = true ∧ r.1.toOption.any (isGone r.2.2) = true) :
    LosesCopy settings now := by
  obtain ⟨made, b', t'⟩ := r
  obtain ⟨hnone, hany⟩ := hlost
  cases made with
  | error p => cases hany
  | ok e =>
    obtain ⟨copy, hcopy, hgone⟩ := exists_of_isGone hany
    refine ⟨e, b', t', copy, resettled_isStore settings, hr, fun hlast => ?_, hcopy, hgone⟩
    rw [hlast] at hnone
    cases hnone

/-- Where copies are kept for a negative time a backup that was made has no record and no copy; nor
has it where they are kept for no time, once the clock has gone on. -/
theorem create_newest_swept :
    LosesCopy sweeping .zero ∧ LosesCopy frugal { stamp := ⟨0⟩, sweep := ⟨1⟩ } :=
  ⟨losesCopy_of_create rfl (by decide +kernel), losesCopy_of_create rfl (by decide +kernel)⟩

end Backups

end Restyle
