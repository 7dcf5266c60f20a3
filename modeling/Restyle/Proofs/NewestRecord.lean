import Restyle.Proofs.LatestCopy

/-!
What making a backup comes to for the file that is copied. Its records stay as they are, or the
newest one is that of the copy just made; only where that copy is too old by the time the old ones
are looked for may none be left.
-/
namespace Restyle

open Restyle.Tree

namespace Backups

variable {b b' : Backups} {t t' : Tree} {W : Path → Prop}

/-- Whether a copy that gets the time for its timestamp is too old in the same call: copies are kept
for a negative time, or for less than passes between the two readings of the clock. -/
def Sweeps (settings : Settings) (now : Readings) : Prop :=
  (∃ count n, excess settings (count + 1) = .ok n) ∧
    ∃ keep, keepMillis settings = .ok keep ∧ now.stamp.millis < now.sweep.millis - keep

/-- What can be counted can be counted with fewer records. -/
theorem excess_one {settings : Settings} {count n : Nat}
    (h : excess settings (count + 1) = .ok n) : ∃ n', excess settings 1 = .ok n' := by
  unfold excess at h ⊢
  split at h
  · exact ⟨_, rfl⟩
  · exact ⟨_, rfl⟩
  · next x hx =>
    cases hq : x.toRat? with
    | none => exact ⟨_, rfl⟩
    | some q =>
      simp only [hq] at h ⊢
      by_cases hlow : q < 1
      · rw [if_pos hlow]
        exact ⟨_, rfl⟩
      · have hone : ((1 : Nat) : Rat) ≤ q := Rat.not_lt.1 hlow
        rw [if_neg hlow, if_pos hone]
        exact ⟨_, rfl⟩
  · cases h

/-! ### Pruning sound records -/

/-- Records that name their copies are removed without fail. -/
theorem removeCopies_ok (t : Tree) {es : List BackupEntry}
    (h : ∀ e ∈ es, ∃ c, copyOf e = .ok c) : (removeCopies t es).1 = .ok () := by
  induction es generalizing t with
  | nil => rfl
  | cons e es ih =>
    obtain ⟨c, hc⟩ := h e List.mem_cons_self
    have hremoved : removeCopy t e = .ok ((c.bind fun p => (t.remove p).toOption).getD t) := by
      unfold removeCopy
      rw [hc]
      rfl
    unfold removeCopies
    rw [hremoved]
    exact ih _ fun e' he' => h e' (List.mem_cons_of_mem _ he')

/-- Nor does removing some of them fail. -/
theorem removeCopies_ne_error {es es' : List BackupEntry} (hes : es'.Sublist es)
    (h : ∀ e ∈ es, ∃ c, copyOf e = .ok c) {f : Fault} : removeCopies t es' ≠ (.error f, t') := by
  intro hr
  have hok := removeCopies_ok t fun e he => h e (hes.mem he)
  rw [hr] at hok
  cases hok

variable {settings : Settings} {now : Readings} {old kept : List BackupEntry} {e : BackupEntry}

/-- Where pruning fails it has removed copies of older records at most, and nothing is swept. -/
theorem prune_failed {f : Fault} (hcopies : ∀ e' ∈ old ++ [e], ∃ c, copyOf e' = .ok c)
    (h : prune settings now.sweep t (old ++ [e]) = (.error f, t')) :
    Changes W (fun q => ∃ e' ∈ old, e'.IsAt q) t t' ∧ (old = [] → ¬ Sweeps settings now) := by
  have hp := prune_cases settings now.sweep t (old ++ [e])
  rw [h] at hp
  cases hp with
  | uncounted count =>
    refine ⟨.refl t, ?_⟩
    rintro rfl ⟨⟨m, n, hn⟩, -⟩
    obtain ⟨n', hone⟩ := excess_one hn
    rw [List.nil_append, List.length_singleton, hone] at count
    cases count
  | full count first => exact absurd first (removeCopies_ne_error (List.take_sublist _ _) hcopies)
  | @ageless n f t1 count first age =>
    have hle : n ≤ old.length := by
      have hn := excess_le count
      rw [List.length_append, List.length_singleton] at hn
      omega
    rw [List.take_append_of_le_length hle] at first
    refine ⟨removeCopies_sublist (List.take_sublist _ _) first, ?_⟩
    rintro - ⟨-, keep, hkeep, -⟩
    rw [age] at hkeep
    cases hkeep
  | old count first age second =>
    exact absurd second
      (removeCopies_ne_error (List.filter_sublist.trans (List.drop_sublist _ _)) hcopies)

/-- Of records that are no newer than one that is too old none is kept. -/
theorem filter_young_eq_nil {es : List BackupEntry} (hes : es.Sublist (old ++ [e]))
    (hrising : ∀ e' ∈ old, e'.timestamp < e.timestamp) {cutoff : Int}
    (hcut : e.timestamp < cutoff) : es.filter (fun e => !decide (e.timestamp < cutoff)) = [] := by
  refine List.filter_eq_nil_iff.2 fun e' he' => ?_
  have hle : e'.timestamp ≤ e.timestamp := by
    rcases List.mem_append.1 (hes.mem he') with he' | he'
    · exact Int.le_of_lt (hrising e' he')
    · exact Int.le_of_eq (congrArg BackupEntry.timestamp (List.mem_singleton.1 he'))
  have hold : e'.timestamp < cutoff := by omega
  simp [hold]

/-- What pruning keeps has the newest record, or nothing is kept. -/
theorem prune_newest_or (hstamp : now.stamp.millis ≤ e.timestamp)
    (hrising : ∀ e' ∈ old, e'.timestamp < e.timestamp)
    (hfirst : old = [] → e.timestamp = now.stamp.millis)
    (h : prune settings now.sweep t (old ++ [e]) = (.ok kept, t')) :
    kept = [] ∧ Sweeps settings now ∨
      kept.getLast? = some e ∧ Changes W (fun q => ∃ e' ∈ old, e'.IsAt q) t t' ∧
        (old = [] → ¬ Sweeps settings now) := by
  by_cases hage :
      ∀ keep, keepMillis settings = .ok keep → ¬ e.timestamp < now.sweep.millis - keep
  · obtain ⟨hlast, hc⟩ := prune_keeps (W := W) hage h
    refine .inr ⟨hlast, hc, ?_⟩
    rintro hnil ⟨-, keep, hkeep, hneg⟩
    have hyoung := hage keep hkeep
    have hnow := hfirst hnil
    omega
  · have hp := prune_cases settings now.sweep t (old ++ [e])
    rw [h] at hp
    cases hp with
    | @kept n keep t1 t2 count first age second =>
      have hcut : e.timestamp < now.sweep.millis - keep := by
        refine Classical.byContradiction fun hyoung => hage fun keep' hkeep' => ?_
        rw [age] at hkeep'
        cases hkeep'
        exact hyoung
      refine .inl ⟨?_, ⟨⟨old.length, n, ?_⟩, keep, age, by omega⟩⟩
      · exact filter_young_eq_nil (List.drop_sublist _ _) hrising hcut
      · rw [List.length_append, List.length_singleton] at count
        exact count

/-! ### Making a backup -/

/-- What making a backup of the file at a place comes to for its records and its newest copy. -/
inductive Recording (b : Backups) (t : Tree) (now : Readings) (file : Path) (reason : String) :
    Backups → Tree → Prop
  | unchanged {b' : Backups} {t' : Tree}
      (records : recordsOf b'.index file = recordsOf b.index file)
      (changes : Changes nowhere nowhere t t') : Recording b t now file reason b' t'
  | swept {b' : Backups} {t' : Tree} {bytes : ByteArray} (read : t.read file = .ok bytes)
      (records : recordsOf b'.index file = []) (sweeps : Sweeps b.settings now) :
      Recording b t now file reason b' t'
  | newest {b' : Backups} {t' : Tree} {bytes : ByteArray} (read : t.read file = .ok bytes)
      (records : (recordsOf b'.index file).getLast? =
        some (b.entryFor file (b.stamp file now) reason bytes))
      (copy : t'.find (b.copyPath file (b.stamp file now)) =
        .ok (b.copyPlace file (b.stamp file now), some (.file bytes)))
      (keeps : recordsOf b.index file = [] → ¬ Sweeps b.settings now) :
      Recording b t now file reason b' t'

/-- Copies of one file with different timestamps lie at different places. -/
theorem timestamp_of_copyPlace {file : Path} {timestamp timestamp' : Int}
    (h : b.copyPlace file timestamp = b.copyPlace file timestamp') : timestamp = timestamp' := by
  have htail := List.append_cancel_left h
  unfold tail at htail
  exact (copyName_injective (List.singleton_inj.1 (List.append_cancel_left htail))).2

theorem stamp_eq {file : Path} (hf : file.IsPlace) (now : Readings) :
    b.stamp file now = nextTimestamp (recordsOf b.index file) now.stamp := by
  unfold stamp
  rw [history_eq hf]

theorem create_recording (h : b.IsStore t) (now : Readings) {path : Path} (hp : path.IsLegible)
    (reason : String) :
    Recording b t now path.resolve reason (b.create t now path reason).2.1
      (b.create t now path reason).2.2 := by
  have hplace := hp.resolve
  have hhistory : b.history path = recordsOf b.index path.resolve := rfl
  have hstamp : b.stamp path.resolve now = b.stamp path now := stamp_eq hplace now
  have hcases := b.create_cases t now path reason
  revert hcases
  generalize b.create t now path reason = r
  intro hcases
  have hempty := recordsOf_withoutEmpty h.index path.resolve.text path.resolve
  -- the records that are there and the new one, and its copy once it is written
  have hgrown {bytes : ByteArray} {t1 : Tree} (read : t.read path.resolve = .ok bytes)
      (copied : writeCopy t (b.copyPath path.resolve (b.stamp path now)) bytes = (.ok (), t1)) :
      (∀ e ∈ b.history path ++ [b.entryFor path.resolve (b.stamp path now) reason bytes],
        ∃ c, copyOf e = .ok c) ∧
      (∀ e ∈ b.history path, e.timestamp < b.stamp path now) ∧
      ∀ t2 : Tree, Changes nowhere (fun q => ∃ e ∈ b.history path, e.IsAt q) t1 t2 →
        t2.find (b.copyPath path.resolve (b.stamp path now)) =
          .ok (b.copyPlace path.resolve (b.stamp path now), some (.file bytes)) := by
    obtain ⟨hes, -⟩ := grown_records h hp reason read copied
    have hbefore : ∀ e ∈ b.history path, e.timestamp < b.stamp path now := fun e he =>
      lt_nextTimestamp (hhistory ▸ h.index.pairwise path.resolve) now.stamp he
    refine ⟨fun e he => ⟨_, (hes e he).copyOf_eq h.rooted hplace⟩, hbefore, fun t2 hc => ?_⟩
    have hcopy := find_of_writeCopy (isLegible_copyPath h.rooted hplace _) copied
    rw [resolve_copyPath b hplace] at hcopy
    refine hc.find_some hcopy (fun h => h) ?_
    rintro ⟨e, he, hat⟩
    have hrecord := hes e (List.mem_append_left _ he)
    have heq := timestamp_of_copyPlace (hrecord.isAt h.rooted hplace hat)
    have hlt := hbefore e he
    omega
  have hnew (es : List BackupEntry) :
      recordsOf (b.withHistory path es).index path.resolve = es := by
    unfold withHistory
    rw [recordsOf_assign hplace hplace, if_pos rfl]
  cases hcases with
  | refused => exact .unchanged rfl (.refl t)
  | unreadable => exact .unchanged hempty (.refl t)
  | uncopied read copied =>
    exact .unchanged hempty (writeCopy_refused (isLegible_copyPath h.rooted hplace _) copied)
  | @unpruned f bytes t1 t2 checked read copied pruned =>
    obtain ⟨hcopies, -, hcopy⟩ := hgrown read copied
    obtain ⟨hc, hkeeps⟩ := prune_failed hcopies pruned
    refine .newest read ?_ (hstamp.symm ▸ hcopy t2 hc) (hhistory ▸ hkeeps)
    rw [hnew, hstamp]
    exact List.getLast?_concat
  | @made bytes t1 t2 kept available checked read copied pruned =>
    obtain ⟨-, hbefore, hcopy⟩ := hgrown read copied
    have hfirst : b.history path = [] → b.stamp path now = now.stamp.millis := by
      intro hnil
      unfold stamp nextTimestamp
      rw [hnil]
      rfl
    rcases prune_newest_or (W := nowhere) (le_nextTimestamp _ now.stamp) hbefore hfirst pruned with
      ⟨rfl, hsweeps⟩ | ⟨hlast, hc, hkeeps⟩
    · exact .swept read (hnew []) hsweeps
    · refine .newest read ?_ ?_ (hhistory ▸ hkeeps)
      · rw [hstamp]
        exact (congrArg List.getLast? (hnew kept)).trans hlast
      · have hfind := hcopy t2 hc
        have hs := saveIndex_changes (R := nowhere) (h.rooted.withHistory path kept) t2
        rw [hstamp]
        exact hs.find_some hfind (fun hm => copyPlace_ne_manifest b _ _ hm) fun h => h

end Backups

end Restyle
