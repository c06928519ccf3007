import Mathlib.Algebra.BigOperators.Ring.List
import Mathlib.Algebra.Order.Field.Basic
import Mathlib.Order.Interval.Set.Basic
import ScadaSim.Lib.Cumulative
import ScadaSim.Traffic.Profile

/-!
# The sampling of profiles

`initialize` ends with the normalisation of the ratios, and `getTrafficProfile` scans
the probabilities that come out. `Selectable`: the profiles that some draw comes to,
with sums that may round. `getTrafficProfile_normalize`: in exact arithmetic the scan
inverts the cumulated distribution, so that each profile has an interval of the length
of its share.
-/

namespace ScadaSim.Traffic

open Lib

def ratios (profiles : List TrafficProfile) : List Rat := profiles.map fun t => t.probability

/-- The end of `initialize`: `probability` and `WANprob`, which were read as ratio and
percentage. -/
def normalize (profiles : List TrafficProfile) : List TrafficProfile :=
  let cum_ratio := (ratios profiles).sum
  profiles.map fun t =>
    { t with probability := t.probability / cum_ratio, WANprob := t.WANprob / 100 }

/-! ## The position that is scanned to -/

section Position

variable (fp : Doubles)

/-- The position of the profile that `getTrafficProfile` returns. -/
def selected (profiles : List TrafficProfile) (profileProb : Rat) : Nat :=
  Cumulative.stop fp.plus profileProb 0 (ratios profiles)

/-- What `cum_prob` comes to with the profiles in front of position `i`. -/
def cumulated (profiles : List TrafficProfile) (i : Nat) : Rat :=
  Cumulative.upTo fp.plus 0 (ratios profiles) i

theorem scanProfiles_eq_getElem (profileProb cum_prob : Rat) (profiles : List TrafficProfile) :
    scanProfiles fp profileProb cum_prob profiles =
      profiles[Cumulative.stop fp.plus profileProb cum_prob (ratios profiles)]? := by
  induction profiles generalizing cum_prob with
  | nil => rfl
  | cons t rest ih =>
      cases rest with
      | nil => rfl
      | cons t' rest =>
          have hrest := ih (fp.plus cum_prob t.probability)
          unfold scanProfiles
          dsimp only
          rw [hrest]
          show _ = (t :: t' :: rest)[if profileProb ≤ fp.plus cum_prob t.probability then 0
            else Cumulative.stop fp.plus profileProb (fp.plus cum_prob t.probability)
              (ratios (t' :: rest)) + 1]?
          split <;> rfl

theorem length_ratios (profiles : List TrafficProfile) :
    (ratios profiles).length = profiles.length := List.length_map ..

theorem selected_lt {profiles : List TrafficProfile} (hne : profiles ≠ []) (profileProb : Rat) :
    selected fp profiles profileProb < profiles.length := by
  have hratios : ratios profiles ≠ [] := fun h => hne (List.map_eq_nil_iff.mp h)
  rw [← length_ratios]
  exact Cumulative.stop_lt _ _ _ hratios

theorem getTrafficProfile_selected {profiles : List TrafficProfile} {profileProb : Rat} {i : Nat}
    (hi : i < profiles.length) (hselected : selected fp profiles profileProb = i)
    (foreignServerProb : Rat) (isForeign : Bool) :
    getTrafficProfile fp profiles profileProb foreignServerProb isForeign =
      .ok (profiles[i], decideForeign profiles[i] foreignServerProb isForeign) := by
  unfold getTrafficProfile
  rw [scanProfiles_eq_getElem, show Cumulative.stop fp.plus profileProb 0 (ratios profiles) = i
    from hselected, List.getElem?_eq_getElem hi]

/-- Some number that can be drawn lies above every sum in front of position `i`, and, unless
the position is the last one, not above its own sum. -/
def Selectable (profiles : List TrafficProfile) (i : Nat) : Prop :=
  i < profiles.length ∧ ∃ p, fp.drawn p ∧ (∀ j < i, cumulated fp profiles (j + 1) < p) ∧
    (i + 1 < profiles.length → p ≤ cumulated fp profiles (i + 1))

theorem selectable_iff {profiles : List TrafficProfile} {i : Nat} (hi : i < profiles.length) :
    Selectable fp profiles i ↔ ∃ p, fp.drawn p ∧ selected fp profiles p = i := by
  unfold Selectable selected cumulated
  rw [and_iff_right hi]
  refine exists_congr fun p => and_congr_right fun _ => ?_
  rw [Cumulative.stop_eq_iff fp.plus p 0 ((length_ratios profiles).symm ▸ hi), length_ratios]

end Position

/-- Sums that are cut off behind the 53rd binary digit. -/
def cutSums : Doubles :=
  { Doubles.exact with plus := fun x y => ((x + y) * 2 ^ 53).floor / 2 ^ 53 }

/-- The sum swallows the probability of the second profile, and no draw comes to it. -/
example : ¬ Selectable cutSums [{ profileID := 1, probability := 1 / 2 },
    { profileID := 2, probability := 1 / 2 ^ 60 },
    { profileID := 1, probability := 1 / 2 - 1 / 2 ^ 60 }] 1 := by
  rintro ⟨-, p, -, habove, hown⟩
  have hless := (habove 0 Nat.one_pos).trans_le (hown (by decide))
  exact absurd hless (by decide +kernel)

/-! ## The shares, in exact arithmetic -/

/-- The part of [0, 1] in front of the profile at `i`. -/
def boundary (profiles : List TrafficProfile) (i : Nat) : Rat :=
  Cumulative.below (ratios profiles) i / (ratios profiles).sum

/-- The numbers that belong to the profile at `i`. -/
def interval (profiles : List TrafficProfile) (i : Nat) : Set Rat :=
  Set.Ioc (boundary profiles i) (boundary profiles (i + 1))

theorem ratios_normalize (profiles : List TrafficProfile) :
    ratios (normalize profiles) = (ratios profiles).map fun r => r / (ratios profiles).sum := by
  unfold ratios normalize
  simp only [List.map_map]
  rfl

theorem length_normalize (profiles : List TrafficProfile) :
    (normalize profiles).length = profiles.length := List.length_map ..

/-- The sums of the probabilities are those of the ratios, as parts of the whole. -/
theorem below_normalize (profiles : List TrafficProfile) (i : Nat) :
    Cumulative.below (ratios (normalize profiles)) i = boundary profiles i := by
  have hdiv (l : List Rat) (r : Rat) : (l.map fun x => x / r).sum = l.sum / r := by
    simp only [div_eq_mul_inv]
    exact List.sum_map_mul_right (r := r⁻¹) l id |>.trans (by rw [List.map_id])
  unfold boundary Cumulative.below
  rw [ratios_normalize, ← List.map_take, hdiv]

theorem selected_normalize_iff {profiles : List TrafficProfile}
    (hratio : ∀ t ∈ profiles, 0 ≤ t.probability) (hsum : 0 < (ratios profiles).sum) {p : Rat}
    (hp : 0 < p) (hp1 : p ≤ 1) {i : Nat} (hi : i < profiles.length) :
    selected .exact (normalize profiles) p = i ↔ p ∈ interval profiles i := by
  have hnonneg : ∀ w ∈ ratios (normalize profiles), 0 ≤ w := by
    intro w hw
    rw [ratios_normalize] at hw
    obtain ⟨r, hr, rfl⟩ := List.mem_map.mp hw
    obtain ⟨t, ht, rfl⟩ := List.mem_map.mp hr
    exact div_nonneg (hratio t ht) hsum.le
  have htotal : (ratios (normalize profiles)).sum = 1 := by
    rw [← Cumulative.below_length, below_normalize]
    unfold boundary
    rw [length_ratios, length_normalize, ← length_ratios profiles, Cumulative.below_length]
    exact div_self hsum.ne'
  have hi' : i < (ratios (normalize profiles)).length := by
    rw [length_ratios, length_normalize]
    exact hi
  have hshare := Cumulative.stop_eq_iff_share hnonneg hp (htotal.symm ▸ hp1) hi'
  rw [below_normalize, below_normalize] at hshare
  exact hshare

theorem boundary_succ (profiles : List TrafficProfile) {i : Nat} (hi : i < profiles.length) :
    boundary profiles (i + 1) =
      boundary profiles i + profiles[i].probability / (ratios profiles).sum := by
  have hi' : i < (ratios profiles).length := (length_ratios profiles).symm ▸ hi
  have hget : (ratios profiles)[i] = profiles[i].probability := List.getElem_map ..
  unfold boundary
  rw [Cumulative.below_succ _ hi', add_div, hget]

theorem boundary_mono {profiles : List TrafficProfile}
    (hratio : ∀ t ∈ profiles, 0 ≤ t.probability) (hsum : 0 < (ratios profiles).sum) :
    Monotone (boundary profiles) := by
  have hnonneg : ∀ w ∈ ratios profiles, 0 ≤ w := by
    intro w hw
    obtain ⟨t, ht, rfl⟩ := List.mem_map.mp hw
    exact hratio t ht
  intro i j hij
  exact div_le_div_of_nonneg_right (Cumulative.below_mono hnonneg hij) hsum.le

/-- The intervals lie in (0, 1]. -/
theorem interval_subset {profiles : List TrafficProfile}
    (hratio : ∀ t ∈ profiles, 0 ≤ t.probability) (hsum : 0 < (ratios profiles).sum) {i : Nat}
    (hi : i < profiles.length) {p : Rat} (hp : p ∈ interval profiles i) : 0 < p ∧ p ≤ 1 := by
  have hmono := boundary_mono hratio hsum
  have hzero : boundary profiles 0 = 0 := by
    unfold boundary
    rw [Cumulative.below_zero, zero_div]
  have hone : boundary profiles profiles.length = 1 := by
    unfold boundary
    rw [← length_ratios profiles, Cumulative.below_length]
    exact div_self hsum.ne'
  constructor
  · calc (0 : Rat) = boundary profiles 0 := hzero.symm
      _ ≤ boundary profiles i := hmono (Nat.zero_le i)
      _ < p := hp.1
  · calc p ≤ boundary profiles (i + 1) := hp.2
      _ ≤ boundary profiles profiles.length := hmono hi
      _ = 1 := hone

/-- The profiles share out (0, 1]: each number in it is in the interval of one profile,
which is the one that it selects, and the interval of a profile is as long as its ratio
is a part of all ratios. -/
theorem getTrafficProfile_normalize {profiles : List TrafficProfile}
    (hratio : ∀ t ∈ profiles, 0 ≤ t.probability) (hsum : 0 < (ratios profiles).sum) :
    (∀ p, 0 < p → p ≤ 1 → ∃! i, i < profiles.length ∧ p ∈ interval profiles i) ∧
      ∀ i, ∀ hi : i < profiles.length,
        (∃ t, (normalize profiles)[i]? = some t ∧
          ∀ p ∈ interval profiles i, ∀ foreignServerProb isForeign,
            getTrafficProfile .exact (normalize profiles) p foreignServerProb isForeign =
              .ok (t, decideForeign t foreignServerProb isForeign)) ∧
        boundary profiles (i + 1) - boundary profiles i =
          profiles[i].probability / (ratios profiles).sum ∧
        (profiles[i].probability = 0 → interval profiles i = ∅) := by
  have hne : normalize profiles ≠ [] := by
    intro h
    rw [List.map_eq_nil_iff.mp h] at hsum
    exact lt_irrefl 0 hsum
  constructor
  · intro p hp hp1
    have hlt := selected_lt .exact hne p
    rw [length_normalize] at hlt
    refine ⟨selected .exact (normalize profiles) p,
      ⟨hlt, (selected_normalize_iff hratio hsum hp hp1 hlt).mp rfl⟩, ?_⟩
    rintro j ⟨hj, hmem⟩
    exact ((selected_normalize_iff hratio hsum hp hp1 hj).mpr hmem).symm
  · intro i hi
    refine ⟨?_, ?_, ?_⟩
    · have hi' : i < (normalize profiles).length := (length_normalize profiles).symm ▸ hi
      refine ⟨(normalize profiles)[i], List.getElem?_eq_getElem hi', ?_⟩
      intro p hp foreignServerProb isForeign
      obtain ⟨hpos, hone⟩ := interval_subset hratio hsum hi hp
      exact getTrafficProfile_selected .exact hi'
        ((selected_normalize_iff hratio hsum hpos hone hi).mpr hp) _ _
    · rw [boundary_succ profiles hi, add_sub_cancel_left]
    · intro hnone
      unfold interval
      rw [boundary_succ profiles hi, hnone, zero_div, add_zero]
      exact Set.Ioc_self _

/-- Three profiles, the one in the middle never used. -/
def threeProfiles : List TrafficProfile :=
  [{ profileID := 1, probability := 1 }, { profileID := 11, probability := 0 },
    { profileID := 21, probability := 3 }]

theorem getTrafficProfile_threeProfiles :
    (interval threeProfiles 1 = ∅ ∧
      boundary threeProfiles 3 - boundary threeProfiles 2 = 3 / (ratios threeProfiles).sum) ∧
      (1 / 2 : Rat) ∈ interval threeProfiles 2 := by
  have h := @getTrafficProfile_normalize threeProfiles (by decide +kernel) (by decide +kernel)
  refine ⟨⟨(h.2 1 (by decide)).2.2 rfl, (h.2 2 (by decide)).2.1⟩, ?_⟩
  show boundary threeProfiles 2 < 1 / 2 ∧ 1 / 2 ≤ boundary threeProfiles 3
  decide +kernel

end ScadaSim.Traffic
