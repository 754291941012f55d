import ReadYourWrites.Proofs.Version
import ReadYourWrites.Proofs.Wait.Goal

-- What a wait makes of the versions behind one that ends it. Of each such version of the same object
-- it should say the same, and it does, unless the two are tangled with the written one.

namespace ReadYourWrites

namespace Goal

-- Whether a wait for a written version goes on when the cache shows a version that is not older than
-- one that would have ended the wait.
structure SetBack (receipt : Receipt) (m : Metadata) (observed later : String) : Prop where
  same : receipt.Matches m
  tangled : ∃ written, receipt.resourceVersion = some written ∧
    Version.Tangled written observed later

variable {receipt : Receipt} {m n : Metadata} {observed later written : String}

theorem not_lt_of_isMetBy (same : receipt.Matches m)
    (met : Goal.updatedOrGone.isMetBy receipt m = true) (hm : m.resourceVersion = some observed)
    (hw : receipt.resourceVersion = some written) : Version.compare observed written ≠ .lt := by
  rw [isMetBy_of_matches same, hm, hw, hasReached, bne_iff_ne] at met
  exact met

theorem isMetBy_eq_false_iff_setBack (met : Goal.updatedOrGone.isMetBy receipt m = true)
    (hm : m.resourceVersion = some observed) (hn : n.resourceVersion = some later)
    (uid : m.uid.getD "" = n.uid.getD "") (newer : Version.compare later observed ≠ .lt) :
    Goal.updatedOrGone.isMetBy receipt n = false ↔ SetBack receipt m observed later := by
  have matches_iff : receipt.Matches n ↔ receipt.Matches m := by
    rw [Receipt.Matches, Receipt.Matches, uid]
  have hol : Version.compare observed later ≠ .gt := Version.ne_lt_iff_swap.mp newer
  rw [isMetBy_eq_false_iff]
  constructor
  case mp =>
    intro h
    cases h with
    | @outdated _ written _ hu hw hlt =>
      have same : receipt.Matches m := matches_iff.mp hu
      have hwo := Version.ne_lt_iff_swap.mp (not_lt_of_isMetBy same met hm hw)
      have hwl : Version.compare written later = .gt := by
        rw [Version.compare_swap, hlt later hn]
        rfl
      exact ⟨same, written, hw, Version.tangled_iff.mpr ⟨hwo, hol, hwl⟩⟩
    | unmarked hg => cases hg
  case mpr =>
    rintro ⟨same, written, hw, tangled⟩
    obtain ⟨_, _, hwl⟩ := Version.tangled_iff.mp tangled
    refine .outdated rfl (matches_iff.mpr same) hw fun version hv => ?_
    cases hn.symm.trans hv
    rw [Version.compare_swap, hwl]
    rfl

end Goal

-- Every version is as new as itself, and of two versions one is as new as the other. A version that is
-- as new as a second, which is as new as a third, is as new as the third, unless the three are tangled.
-- So a wait that one version ends is ended by all versions of the same object that are as new as this
-- one, up to those that are tangled with the written one.
theorem Version.ordered_unless_tangled :
    (∀ a, compare a a = .eq) ∧
    (∀ a b, compare a b = (compare b a).swap) ∧
    (∀ a b c, compare a b ≠ .gt → compare b c ≠ .gt → (compare a c ≠ .gt ↔ ¬Tangled a b c)) ∧
    (∀ (receipt : Receipt) (m n : Metadata) (observed later : String),
      Goal.updatedOrGone.isMetBy receipt m = true → m.resourceVersion = some observed →
      n.resourceVersion = some later → m.uid.getD "" = n.uid.getD "" →
      compare later observed ≠ .lt →
      (Goal.updatedOrGone.isMetBy receipt n = true ↔ ¬Goal.SetBack receipt m observed later)) := by
  refine ⟨compare_self, compare_swap, ?_, ?_⟩
  case refine_1 =>
    intro a b c hab hbc
    exact compare_trans_iff hab hbc
  case refine_2 =>
    intro receipt m n observed later met hm hn uid newer
    have h := Goal.isMetBy_eq_false_iff_setBack met hm hn uid newer
    rw [← h, Bool.not_eq_false]

namespace Sample

-- An object of which a cache shows a version.
def versioned (version : String) : Metadata :=
  { Metadata.empty with uid := some "u", resourceVersion := some version }

end Sample

-- With numerals only nothing is tangled, however they are spelled.
theorem Version.ordered_numerals :
    let receipt := (Sample.versioned "9").receipt ⟨none, "a"⟩
    compare "010" "+9" = (compare "+9" "010").swap ∧ compare "9" "+11" ≠ .gt ∧
      Goal.updatedOrGone.isMetBy receipt (Sample.versioned "+11") = true := by
  intro receipt
  have ⟨_, reversed, chained, wait⟩ := ordered_unless_tangled
  have untangled : ¬Tangled "9" "010" "+11" := by
    rw [tangled_iff]
    decide +kernel
  refine ⟨reversed _ _, (chained "9" "010" "+11" ?_ ?_).mpr untangled, ?_⟩
  case refine_1 => decide +kernel
  case refine_2 => decide +kernel
  case refine_3 =>
    have step := wait receipt (Sample.versioned "010") (Sample.versioned "+11") "010" "+11"
    refine (step ?_ rfl rfl rfl ?_).mpr ?_
    case refine_1 => decide +kernel
    case refine_2 => decide +kernel
    case refine_3 =>
      rintro ⟨_, _, written, tangled⟩
      cases written
      exact untangled tangled

-- By its value 9 comes before 10, and by their bytes 10 comes before 1a, and 1a before 9. A wait for 10
-- that 1a would end goes on when the cache shows 9.
theorem Version.ordered_circle :
    let receipt := (Sample.versioned "10").receipt ⟨none, "a"⟩
    (compare "9" "10" = .lt ∧ compare "10" "1a" = .lt ∧ compare "9" "1a" = .gt) ∧
      Goal.updatedOrGone.isMetBy receipt (Sample.versioned "1a") = true ∧
      compare "9" "1a" ≠ .lt ∧
      Goal.updatedOrGone.isMetBy receipt (Sample.versioned "9") = false := by
  decide +kernel

end ReadYourWrites
