import Restyle.Proofs.SoundStore

/-!
Retention never takes the newest copy of a file, as long as copies are kept for no negative time and
no time passes between its timestamp and the look for old ones.
-/
namespace Restyle

open Number

namespace Number

theorem roundHalfEven_nonneg {q : Rat} (h : 0 ≤ q) : 0 ≤ roundHalfEven q := by
  have hf : 0 ≤ q.floor := Rat.le_floor_iff.2 h
  unfold roundHalfEven
  simp only
  split
  · exact hf
  · split
    · omega
    · split <;> omega

theorem nearest_nonneg {q : Rat} (h : 0 ≤ q) : 0 ≤ nearest q := by
  unfold nearest
  split
  · exact Rat.le_refl
  · have hunit : (0 : Rat) ≤ 2 ^ lastPlace q := Rat.zpow_nonneg (by decide)
    have hq : 0 ≤ q / 2 ^ lastPlace q := by
      rw [Rat.div_def, ← Rat.zpow_neg]
      exact Rat.mul_nonneg h (Rat.zpow_nonneg (by decide))
    refine Rat.mul_nonneg ?_ hunit
    exact Rat.intCast_nonneg.2 (roundHalfEven_nonneg hq)

theorem truncate_nonneg {q : Rat} (h : 0 ≤ q) : 0 ≤ Value.truncate q := by
  unfold Value.truncate
  rw [if_neg (Rat.not_lt.2 h)]
  exact Rat.le_floor_iff.2 h

end Number

namespace Backups

/-- Whether copies are kept for no negative time. -/
def keepsDays (settings : Settings) : Prop :=
  ∃ days, (settings.value "auto_cleanup_days").toBinary? = some days ∧
    days.lt? (.finite 0) = some false

theorem nonneg_of_lt? {q : Rat} (h : (Binary64.finite q).lt? (.finite 0) = some false) : 0 ≤ q :=
  Rat.not_lt.1 (of_decide_eq_false (Option.some.inj h))

theorem binaryToInt_ofRat_nonneg {q : Rat} (h : 0 ≤ q) {n : Int}
    (hn : Value.binaryToInt (Binary64.ofRat q) = .ok n) : 0 ≤ n := by
  unfold Binary64.ofRat at hn
  simp only at hn
  split at hn
  · cases hn
    exact truncate_nonneg (nearest_nonneg h)
  · cases hn

theorem keepMillis_nonneg {settings : Settings} (h : keepsDays settings) {keep : Int}
    (hk : keepMillis settings = .ok keep) : 0 ≤ keep := by
  obtain ⟨days, hd, hlt⟩ := h
  unfold keepMillis at hk
  have hms : (0 : Int) ≤ millisPerDay := by decide
  split at hk
  · next n hv =>
    cases hk
    rw [hv] at hd
    cases hd
    exact Int.mul_nonneg (Rat.intCast_nonneg.1 (nonneg_of_lt? hlt)) hms
  · next b hv =>
    cases hk
    split
    · exact hms
    · exact Int.le_refl 0
  · next hv =>
    rw [hv] at hd
    cases hd
    have hms' : (0 : Rat) ≤ millisPerDay := by decide
    cases days with
    | finite q => exact binaryToInt_ofRat_nonneg (Rat.mul_nonneg (nonneg_of_lt? hlt) hms') hk
    | negativeZero => exact binaryToInt_ofRat_nonneg (Rat.mul_nonneg Rat.le_refl hms') hk
    | infinite n =>
      cases n
      · cases hk
      · cases hlt
    | nan => cases hlt
  · cases hk
  · cases hk
  · cases hk

/-- At least one copy is kept. -/
theorem excess_le {settings : Settings} {count n : Nat} (h : excess settings count = .ok n) :
    n ≤ count - 1 := by
  unfold excess at h
  split at h
  · cases h
    omega
  · cases h
    exact Nat.le_refl _
  · split at h
    · split at h
      · cases h
        exact Nat.le_refl _
      · split at h
        · cases h
          exact Nat.zero_le _
        · cases h
    · cases h
      split
      · exact Nat.le_refl _
      · exact Nat.zero_le _
  · cases h

variable {t t' : Tree} {W : Path → Prop}

/-- Pruning keeps the newest record, if it is not too old, and removes copies of other records
only. -/
theorem prune_keeps {settings : Settings} {now : Clock} {old kept : List BackupEntry}
    {e : BackupEntry}
    (hage : ∀ keep, keepMillis settings = .ok keep → ¬ e.timestamp < now.millis - keep)
    (h : prune settings now t (old ++ [e]) = (.ok kept, t')) :
    kept.getLast? = some e ∧ Tree.Changes W (fun q => ∃ e ∈ old, e.IsAt q) t t' := by
  have hp := prune_cases settings now t (old ++ [e])
  rw [h] at hp
  cases hp with
  | @kept n keep t1 t2 count first age second =>
    have hle : n ≤ old.length := by
      have hn := excess_le count
      rw [List.length_append, List.length_singleton] at hn
      omega
    have hnew : decide (e.timestamp < now.millis - keep) = false :=
      decide_eq_false (hage keep age)
    rw [List.take_append_of_le_length hle] at first
    rw [List.drop_append_of_le_length hle] at second ⊢
    simp only [List.filter_append, List.filter_cons, hnew, List.filter_nil, Bool.false_eq_true,
      if_false, List.append_nil, Bool.not_false, if_true] at second ⊢
    exact ⟨List.getLast?_concat .., (removeCopies_sublist (List.take_sublist _ _) first).trans
      (removeCopies_sublist (List.filter_sublist.trans (List.drop_sublist _ _)) second)⟩

/-- So it does where copies are kept for no negative time. -/
theorem prune_newest {settings : Settings} (hdays : keepsDays settings) {now : Clock}
    {old kept : List BackupEntry} {e : BackupEntry} (hnow : now.millis ≤ e.timestamp)
    (h : prune settings now t (old ++ [e]) = (.ok kept, t')) :
    kept.getLast? = some e ∧ Tree.Changes W (fun q => ∃ e ∈ old, e.IsAt q) t t' := by
  refine prune_keeps ?_ h
  intro keep hk
  have hkeep := keepMillis_nonneg hdays hk
  omega

end Backups

end Restyle
