import JsonRpc.Pool
import Mathlib.Data.List.Nodup
import Mathlib.Data.List.Range

namespace JsonRpc

/-- A guard takes a context out of a pool, or gives it back. -/
inductive Traffic where
  | out (guard : Nat)
  | back (guard : Nat)

namespace Traffic

def outs (ledger : List Traffic) : List Nat :=
  ledger.filterMap fun
    | .out guard => some guard
    | .back _ => none

def backs (ledger : List Traffic) : List Nat :=
  ledger.filterMap fun
    | .out _ => none
    | .back guard => some guard

def living (ledger : List Traffic) : List Nat := (outs ledger).filter (· ∉ backs ledger)

variable (ledger : List Traffic) (guard : Nat)

@[simp] theorem outs_out : outs (ledger ++ [.out guard]) = outs ledger ++ [guard] := by
  simp [outs]

@[simp] theorem outs_back : outs (ledger ++ [.back guard]) = outs ledger := by
  simp [outs]

@[simp] theorem backs_out : backs (ledger ++ [.out guard]) = backs ledger := by
  simp [backs]

@[simp] theorem backs_back : backs (ledger ++ [.back guard]) = backs ledger ++ [guard] := by
  simp [backs]

/-- Guards come one after the other, and only one that lives gives its context back. -/
inductive Sound : List Traffic → Prop where
  | nil : Sound []
  | out {ledger : List Traffic} (sound : Sound ledger) :
    Sound (ledger ++ [.out (outs ledger).length])
  | back {ledger : List Traffic} {guard : Nat} (sound : Sound ledger)
    (lives : guard ∈ living ledger) : Sound (ledger ++ [.back guard])

namespace Sound

variable {ledger : List Traffic} (sound : Sound ledger)

include sound

theorem outs_eq : outs ledger = List.range (outs ledger).length := by
  induction sound with
  | nil => rfl
  | out sound hypothesis =>
    rw [outs_out, List.length_append, List.length_singleton, List.range_succ, ← hypothesis]
  | back sound lives hypothesis => rwa [outs_back]

theorem outs_nodup : (outs ledger).Nodup := by
  rw [sound.outs_eq]
  exact List.nodup_range

theorem mem_outs_of_mem_backs : ∀ guard ∈ backs ledger, guard ∈ outs ledger := by
  induction sound with
  | nil => simp [backs]
  | out sound hypothesis =>
    intro guard gone
    rw [backs_out] at gone
    rw [outs_out]
    exact List.mem_append_left _ (hypothesis guard gone)
  | back sound lives hypothesis =>
    intro guard gone
    rw [backs_back, List.mem_append, List.mem_singleton] at gone
    rw [outs_back]
    rcases gone with before | rfl
    · exact hypothesis guard before
    · exact (List.mem_filter.mp lives).1

theorem backs_nodup : (backs ledger).Nodup := by
  induction sound with
  | nil => exact List.nodup_nil
  | out sound hypothesis => rwa [backs_out]
  | back sound lives hypothesis =>
    have fresh := (List.mem_filter.mp lives).2
    rw [backs_back]
    exact List.Nodup.append hypothesis (List.nodup_singleton _)
      (List.disjoint_singleton.mpr (by simpa using fresh))

/-- Every guard either has given its context back, and that once, or lives. -/
theorem backs_living : (backs ledger ++ living ledger).Perm (outs ledger) := by
  have given : ((outs ledger).filter (· ∈ backs ledger)).Perm (backs ledger) := by
    rw [List.perm_ext_iff_of_nodup (sound.outs_nodup.filter _) sound.backs_nodup]
    intro guard
    simpa using sound.mem_outs_of_mem_backs guard
  have split := List.filter_append_perm (fun guard => decide (guard ∈ backs ledger)) (outs ledger)
  have kept : (outs ledger).filter (fun guard => !decide (guard ∈ backs ledger)) =
      living ledger := by simp [living]
  rw [kept] at split
  exact (given.symm.append_right _).trans split

theorem length_living : (backs ledger).length + (living ledger).length = (outs ledger).length := by
  rw [← List.length_append, sound.backs_living.length_eq]

theorem length_living_out :
    (living (ledger ++ [.out (outs ledger).length])).length = (living ledger).length + 1 := by
  have before := sound.length_living
  have after := sound.out.length_living
  rw [backs_out, outs_out, List.length_append, List.length_singleton] at after
  omega

theorem length_living_back {guard : Nat} (lives : guard ∈ living ledger) :
    (living (ledger ++ [.back guard])).length + 1 = (living ledger).length := by
  have before := sound.length_living
  have after := (sound.back lives).length_living
  rw [backs_back, outs_back, List.length_append, List.length_singleton] at after
  omega

theorem of_prefix {earlier : List Traffic} (before : earlier <+: ledger) : Sound earlier := by
  induction sound with
  | nil =>
    rw [List.prefix_nil.mp before]
    exact .nil
  | out sound hypothesis =>
    rcases List.prefix_concat_iff.mp before with rfl | shorter
    · exact .out sound
    · exact hypothesis shorter
  | back sound lives hypothesis =>
    rcases List.prefix_concat_iff.mp before with rfl | shorter
    · exact .back sound lives
    · exact hypothesis shorter

theorem lives_of_back {earlier : List Traffic} {guard : Nat}
    (before : earlier ++ [.back guard] <+: ledger) : guard ∈ living earlier := by
  have given := sound.of_prefix before
  generalize whole : earlier ++ [.back guard] = ended at given
  cases given with
  | nil => simp at whole
  | out _ =>
    obtain ⟨-, last⟩ := List.append_inj' whole rfl
    cases last
  | back _ lives =>
    obtain ⟨rfl, last⟩ := List.append_inj' whole rfl
    cases last
    exact lives

end Sound

end Traffic

namespace Pool

open Traffic

variable {W : World}

/-- A context goes back cleared, so it does not matter which one it is. -/
def pass (pool : Pool W) : Traffic → Pool W
  | .out _ => pool.acquire.2
  | .back _ => pool.release {}

def replay (maxIdle : Nat) (ledger : List Traffic) : Pool W :=
  ledger.foldl pass (.ofMaxIdle maxIdle)

@[simp] theorem replay_concat (maxIdle : Nat) (ledger : List Traffic) (traffic : Traffic) :
    (replay maxIdle (ledger ++ [traffic]) : Pool W) = (replay maxIdle ledger).pass traffic := by
  simp [replay]

structure Balanced (maxIdle : Nat) (ledger : List Traffic) (pool : Pool W) : Prop where
  allocated : pool.allocated = pool.idle + (living ledger).length
  idle : pool.idle ≤ maxIdle
  /-- No more has been allocated than there were guards alive at one time. -/
  peak : ∃ earlier, earlier <+: ledger ∧ pool.allocated ≤ (living earlier).length

theorem acquire_cases (pool : Pool W) :
    (0 < pool.idle ∧ pool.acquire.2.idle + 1 = pool.idle ∧
      pool.acquire.2.allocated = pool.allocated) ∨
    pool.idle = 0 ∧ pool.acquire.2.idle = 0 ∧ pool.acquire.2.allocated = pool.allocated + 1 := by
  obtain ⟨free, allocated, maxIdle⟩ := pool
  cases free with
  | nil => exact .inr ⟨rfl, rfl, rfl⟩
  | cons ctx free => exact .inl ⟨by simp [idle], rfl, rfl⟩

/-- A context goes back to a pool as if it were new. If there is no room for it, it is discarded. -/
inductive Returned (pool : Pool W) : Pool W → Prop where
  | kept (room : pool.idle < pool.maxIdle) : pool.Returned { pool with free := {} :: pool.free }
  | discarded (full : pool.maxIdle ≤ pool.idle) :
    pool.Returned { pool with allocated := pool.allocated - 1 }

theorem returned_release (pool : Pool W) (ctx : Context W) :
    pool.Returned (pool.release ctx) := by
  rw [release]
  split
  · rw [Context.reset_eq]
    exact .kept ‹_›
  · exact .discarded (by omega)

theorem Returned.counts {pool after : Pool W} (returned : pool.Returned after) :
    (pool.idle < pool.maxIdle ∧ after.idle = pool.idle + 1 ∧ after.allocated = pool.allocated) ∨
    pool.maxIdle ≤ pool.idle ∧ after.idle = pool.idle ∧
      after.allocated = pool.allocated - 1 := by
  cases returned with
  | kept room => exact .inl ⟨room, rfl, rfl⟩
  | discarded full => exact .inr ⟨full, rfl, rfl⟩

@[simp] theorem acquire_maxIdle (pool : Pool W) : pool.acquire.2.maxIdle = pool.maxIdle := by
  rw [acquire]
  split <;> rfl

@[simp] theorem release_maxIdle (pool : Pool W) (ctx : Context W) :
    (pool.release ctx).maxIdle = pool.maxIdle := by
  rw [release]
  split <;> rfl

@[simp] theorem replay_maxIdle (maxIdle : Nat) (ledger : List Traffic) :
    (replay maxIdle ledger : Pool W).maxIdle = maxIdle := by
  induction ledger using List.reverseRecOn with
  | nil => rfl
  | append_singleton ledger traffic hypothesis =>
    cases traffic <;> simp [pass, hypothesis]

section

variable {maxIdle : Nat} {ledger : List Traffic} {pool : Pool W} (sound : Sound ledger)
  (balanced : pool.Balanced maxIdle ledger)

include sound balanced

theorem Balanced.out : (pool.pass (.out (outs ledger).length)).Balanced maxIdle
    (ledger ++ [.out (outs ledger).length]) := by
  obtain ⟨allocated, idle, earlier, before, peak⟩ := balanced
  have lives := sound.length_living_out
  rw [pass]
  rcases pool.acquire_cases with ⟨filled, rest, same⟩ | ⟨empty, still, more⟩
  · exact
      { allocated := by omega
        idle := by omega
        peak := ⟨earlier, before.trans (List.prefix_append _ _), by omega⟩ }
  · -- nothing is idle now, so what has been allocated are the contexts of the guards that live
    exact
      { allocated := by omega
        idle := by omega
        peak := ⟨_, List.prefix_rfl, by omega⟩ }

theorem Balanced.back (limit : pool.maxIdle = maxIdle) {guard : Nat}
    (lives : guard ∈ living ledger) :
    (pool.pass (.back guard)).Balanced maxIdle (ledger ++ [.back guard]) := by
  obtain ⟨allocated, idle, earlier, before, peak⟩ := balanced
  have fewer := sound.length_living_back lives
  rw [pass]
  rcases (pool.returned_release {}).counts with ⟨room, more, same⟩ | ⟨full, still, less⟩
  · exact
      { allocated := by omega
        idle := by omega
        peak := ⟨earlier, before.trans (List.prefix_append _ _), by omega⟩ }
  · exact
      { allocated := by omega
        idle := by omega
        peak := ⟨earlier, before.trans (List.prefix_append _ _), by omega⟩ }

end

theorem Balanced.allocated_pos {maxIdle : Nat} {ledger : List Traffic} {pool : Pool W}
    (balanced : pool.Balanced maxIdle ledger) {guard : Nat} (lives : guard ∈ living ledger) :
    0 < pool.allocated := by
  have some_lives := List.length_pos_of_mem lives
  have allocated := balanced.allocated
  omega

theorem replay_balanced {maxIdle : Nat} {ledger : List Traffic} (sound : Sound ledger) :
    (replay maxIdle ledger : Pool W).Balanced maxIdle ledger := by
  induction sound with
  | nil =>
    exact { allocated := rfl, idle := Nat.zero_le _, peak := ⟨[], List.prefix_rfl, Nat.le_refl _⟩ }
  | out sound hypothesis =>
    rw [replay_concat]
    exact hypothesis.out sound
  | back sound lives hypothesis =>
    rw [replay_concat]
    exact hypothesis.back sound (replay_maxIdle _ _) lives

end Pool

end JsonRpc
