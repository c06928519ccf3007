import ScadaSim.Lib.Outcome
import ScadaSim.Traffic.ConnectionManager

/-!
# Whose decision `isForeign` is

`getServer` redraws a profile until it is another one than the excluded, and every
draw may set `isForeign`. `redrawLoop_spec` says what a whole loop does to the flag;
`decidedByKept_iff` says when the flag is the decision of the draw that is kept.
-/

namespace ScadaSim.Traffic

open Lib

variable {fp : Doubles}

/-- The profile drawn at a position of the generator. -/
def drawnProfile (rng : Rng fp) (profiles : List TrafficProfile) (pos : Nat) :
    Option TrafficProfile :=
  scanProfiles fp (rng.unit (pos + 1)) 0 profiles

/-- The draw at a position selects a foreign server. -/
def DrawsForeign (rng : Rng fp) (profiles : List TrafficProfile) (pos : Nat) : Prop :=
  ∃ t, drawnProfile rng profiles pos = some t ∧ t.WANprob ≥ rng.unit pos

/-- The loop has drawn at `pos`, `pos + 2` and so on, and ends at `pos'` with the
profile `tp'`: where it has drawn at all, the flag is what the last draw decides,
and else it is not set. -/
def DecidedByKept (rng : Rng fp) (pos pos' : Nat) (tp' : TrafficProfile) (isForeign : Bool) : Prop :=
  (pos' = pos → isForeign = false) ∧
    (pos' ≠ pos → (isForeign = true ↔ tp'.WANprob ≥ rng.unit (pos' - 2)))

/-- No draw but the last selects a foreign server, or the last does so too. -/
def RejectedAgree (rng : Rng fp) (profiles : List TrafficProfile) (pos pos' : Nat) : Prop :=
  ∀ rejected, pos + 2 * rejected + 2 < pos' → DrawsForeign rng profiles (pos + 2 * rejected) →
    DrawsForeign rng profiles (pos' - 2)

section Loop

variable {rng : Rng fp} {profiles : List TrafficProfile} {except : Int} {fuel pos pos' : Nat}
  {tp tp' : TrafficProfile} {isForeign isForeign' : Bool}

theorem drawProfile_eq {r : TrafficProfile × Bool}
    (h : drawProfile rng profiles isForeign pos = .ok r) :
    drawnProfile rng profiles pos = some r.1 ∧
      (r.2 = true ↔ isForeign = true ∨ DrawsForeign rng profiles pos) := by
  unfold drawProfile getTrafficProfile at h
  cases hscan : scanProfiles fp (rng.unit (pos + 1)) 0 profiles with
  | none => simp [hscan] at h
  | some t =>
      simp only [hscan] at h
      cases h
      refine ⟨hscan, ?_⟩
      unfold DrawsForeign drawnProfile decideForeign
      simp only [hscan]
      split
      · rename_i hforeign
        simp only [true_iff]
        exact .inr ⟨t, rfl, hforeign⟩
      · rename_i hlocal
        constructor
        · exact Or.inl
        · rintro (hset | ⟨t', ht', hforeign⟩)
          · exact hset
          · cases ht'
            exact absurd hforeign hlocal

/-- The loop keeps the last profile drawn, if it draws, and the flag is set when it was
or when any of the draws sets it. -/
theorem redrawLoop_flag
    (h : redrawLoop rng profiles except fuel tp isForeign pos = .ok (tp', isForeign', pos')) :
    ∃ draws, pos' = pos + 2 * draws ∧ (draws = 0 → tp' = tp) ∧
      (draws ≠ 0 → drawnProfile rng profiles (pos' - 2) = some tp') ∧
      (isForeign' = true ↔
        isForeign = true ∨ ∃ k < draws, DrawsForeign rng profiles (pos + 2 * k)) := by
  induction fuel generalizing tp isForeign pos with
  | zero =>
      unfold redrawLoop at h
      split at h
      · cases h
      · cases h
        exact ⟨0, rfl, fun _ => rfl, fun hne => absurd rfl hne, by simp⟩
  | succ fuel ih =>
      unfold redrawLoop at h
      split at h
      · dsimp only at h
        cases hdraw : drawProfile rng profiles isForeign pos with
        | error e =>
            rw [hdraw] at h
            cases h
        | ok r =>
            rw [hdraw, ok_bind] at h
            obtain ⟨hkept, hflag⟩ := drawProfile_eq hdraw
            -- `DrawsForeign` moves on by one draw, two random numbers
            obtain ⟨draws, hpos, hfirst, hlast, hset⟩ := ih h
            refine ⟨draws + 1, by omega, fun hzero => absurd hzero (Nat.succ_ne_zero _),
              fun _ => ?_, ?_⟩
            · -- with no further draw, this one is the last
              cases draws with
              | zero =>
                  rw [hfirst rfl, hpos]
                  exact hkept
              | succ draws => exact hlast (Nat.succ_ne_zero _)
            · rw [hset, hflag, or_assoc]
              refine or_congr_right ?_
              constructor
              · rintro (hfirst | ⟨k, hk, hforeign⟩)
                · exact ⟨0, Nat.succ_pos _, hfirst⟩
                · refine ⟨k + 1, Nat.succ_lt_succ hk, ?_⟩
                  rw [show pos + 2 * (k + 1) = pos + 2 + 2 * k by omega]
                  exact hforeign
              · rintro ⟨k, hk, hforeign⟩
                cases k with
                | zero => exact .inl hforeign
                | succ k =>
                    refine .inr ⟨k, Nat.lt_of_succ_lt_succ hk, ?_⟩
                    rw [show pos + 2 * (k + 1) = pos + 2 + 2 * k by omega] at hforeign
                    exact hforeign
      · cases h
        exact ⟨0, rfl, fun _ => rfl, fun hne => absurd rfl hne, by simp⟩

/-- When the loop ends, the flag is the decision of the draw that is kept just when no
rejected draw selects a foreign server, or the kept one does so too. -/
theorem decidedByKept_iff
    (h : redrawLoop rng profiles except fuel tp false pos = .ok (tp', isForeign', pos')) :
    DecidedByKept rng pos pos' tp' isForeign' ↔ RejectedAgree rng profiles pos pos' := by
  obtain ⟨draws, hpos, -, hlast, hflag⟩ := redrawLoop_flag h
  cases draws with
  | zero =>
      have hsame : pos' = pos := by omega
      have hfalse : isForeign' = false := by
        cases isForeign' with
        | false => rfl
        | true => simp at hflag
      constructor
      · intro _ rejected hlt _
        omega
      · intro _
        exact ⟨fun _ => hfalse, fun hne => absurd hsame hne⟩
  | succ draws =>
      -- the draw that is kept is the last one
      have hkept : DrawsForeign rng profiles (pos' - 2) ↔ tp'.WANprob ≥ rng.unit (pos' - 2) := by
        unfold DrawsForeign
        rw [hlast (Nat.succ_ne_zero _)]
        simp
      have hat : pos' - 2 = pos + 2 * draws := by omega
      constructor
      · intro hdecided rejected hlt hforeign
        have hiff := hdecided.2 (by omega)
        exact hkept.mpr (hiff.mp (hflag.mpr (.inr ⟨rejected, by omega, hforeign⟩)))
      · intro hagree
        refine ⟨fun hsame => by omega, fun _ => ?_⟩
        rw [hflag, ← hkept]
        constructor
        · rintro (hset | ⟨k, hk, hforeign⟩)
          · cases hset
          · by_cases hkl : k = draws
            · rw [hat, ← hkl]
              exact hforeign
            · exact hagree k (by omega) hforeign
        · intro hforeign
          exact .inr ⟨draws, Nat.lt_succ_self _, hat ▸ hforeign⟩

end Loop

/-! ### A rejected draw decides -/

/-- The first profile always leaves the AS, the second never does. -/
def remoteAndLocal : List TrafficProfile :=
  [{ profileID := 1, probability := 1 / 2, WANprob := 1 },
   { profileID := 2, probability := 1 / 2, WANprob := 0 }]

/-- One half is drawn for the servers; for the profiles a quarter first, and then
three quarters. -/
def firstThenSecond : Rng .exact where
  index := fun _ _ => 0
  unit := fun k => if k = 1 then 1 / 4 else if k = 3 then 3 / 4 else 1 / 2
  index_lt := fun _ _ hn => hn
  unit_drawn := by
    intro k
    split
    · exact ⟨by decide +kernel, by decide +kernel⟩
    · split <;> exact ⟨by decide +kernel, by decide +kernel⟩

/-- Profile 1 is excluded: its draw is rejected, profile 2 is kept and is local, and
the flag is set. -/
theorem rejected_draw_decides :
    redrawLoop firstThenSecond remoteAndLocal 1 2 { profileID := 1 } false 0 =
        .ok ({ profileID := 2, probability := 1 / 2, WANprob := 0 }, true, 4) ∧
      ¬ DecidedByKept firstThenSecond 0 4
        { profileID := 2, probability := 1 / 2, WANprob := 0 } true := by
  refine ⟨by decide +kernel, ?_⟩
  intro h
  exact absurd ((h.2 (by decide)).mp rfl) (by decide +kernel)

/-- The same profiles with the other decisions. -/
def localAndRemote : List TrafficProfile :=
  [{ profileID := 1, probability := 1 / 2, WANprob := 0 },
   { profileID := 2, probability := 1 / 2, WANprob := 1 }]

/-- Profile 1 is drawn, which is local, and rejected; profile 2 decides itself. -/
theorem second_draw_decides :
    DecidedByKept firstThenSecond 0 4
      { profileID := 2, probability := 1 / 2, WANprob := 1 } true := by
  have hloop : redrawLoop firstThenSecond localAndRemote 1 2 { profileID := 1 } false 0 =
      .ok ({ profileID := 2, probability := 1 / 2, WANprob := 1 }, true, 4) := by
    decide +kernel
  refine (decidedByKept_iff hloop).mpr ?_
  rintro rejected hlt ⟨t, hdrawn, hforeign⟩
  obtain rfl : rejected = 0 := by omega
  have hfirst : drawnProfile firstThenSecond localAndRemote 0 =
      some { profileID := 1, probability := 1 / 2, WANprob := 0 } := by decide +kernel
  cases hfirst.symm.trans hdrawn
  exact absurd hforeign (by decide +kernel)

end ScadaSim.Traffic
