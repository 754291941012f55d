import ReadYourWrites.Object.ConfigMap
import ReadYourWrites.Proofs.Version
import ReadYourWrites.Proofs.Wait.Progress
import ReadYourWrites.Proofs.Wait.Rounds

-- Which versions end a wait for a written one. Between two numerals of naturals below 2⁶⁴ the values
-- decide, between any other two texts the bytes. The written version itself always ends the wait.

namespace ReadYourWrites

open Text

namespace Goal

variable {receipt : Receipt} {m : Metadata}

theorem hasReached_text {x y : Numeral} (hx : x.value < wordBound) (hy : y.value < wordBound) :
    hasReached (some x.text) (some y.text) = true ↔ y.value ≤ x.value := by
  rw [hasReached, Version.compare_text hx hy, bne_iff_ne, Nat.compare_ne_lt]

theorem hasReached_self (version : Option String) : hasReached version version = true := by
  cases version
  case none => rfl
  case some version =>
    rw [hasReached, Version.compare_self]
    rfl

-- An object with the written version is what a wait for an update is for, be it the written one or
-- another one that has its key.
theorem isMetBy_of_written (shown : m.resourceVersion = receipt.resourceVersion) :
    Goal.updatedOrGone.isMetBy receipt m = true := by
  rw [isMetBy, shown, hasReached_self, Bool.or_true]

end Goal

-- A wait ends at once when the cache shows what it is for.
theorem Wait.poll_of_isMetBy {K : Type} [Object K] {cache : Cache} {token : Token} {plan : Plan K}
    {w : World} {m : Metadata} (shown : answer cache plan w 0 = .ok m)
    (met : plan.goal.isMetBy plan.receipt m = true) :
    poll cache token plan w = (.ok (), w.counted) := by
  rw [poll_eq, shown, Goal.judge, met]

-- A natural below 2⁶⁴ is read from its numerals and from nothing else. Two such numerals compare as their
-- naturals do, so that all numerals of one natural are equal. Of two versions of which one is foreign the
-- bytes in UTF-8 decide, and they are equal only if they are the same text. A wait for the numeral of a
-- natural is ended by the numerals of all naturals from there on, and any wait for an update is ended by
-- the written version.
theorem Version.compare_by_value_or_bytes {K : Type} [Object K] :
    (∀ text n, readWord text = some n ↔
      ∃ x : Numeral, x.text = text ∧ x.value = n ∧ n < wordBound) ∧
    (∀ x y : Numeral, x.value < wordBound → y.value < wordBound →
      compare x.text y.text = Ord.compare x.value y.value ∧
        (compare x.text y.text = .eq ↔ x.value = y.value)) ∧
    (∀ text, Foreign text ↔ ∀ x : Numeral, x.text = text → wordBound ≤ x.value) ∧
    (∀ a b, Foreign a ∨ Foreign b →
      compare a b = Ord.compare (bytes a) (bytes b) ∧ (compare a b = .eq ↔ a = b)) ∧
    (∀ (receipt : Receipt) (m : Metadata) (x y : Numeral),
      x.value < wordBound → y.value < wordBound → receipt.Matches m →
      m.resourceVersion = some x.text → receipt.resourceVersion = some y.text →
      (Goal.updatedOrGone.isMetBy receipt m = true ↔ y.value ≤ x.value)) ∧
    (∀ (cache : Cache) (token : Token) (plan : Wait.Plan K) (w : World) (m : Metadata),
      plan.goal = .updatedOrGone → Wait.answer cache plan w 0 = .ok m →
      m.resourceVersion = plan.receipt.resourceVersion →
      Wait.poll cache token plan w = (.ok (), w.counted)) := by
  refine ⟨fun _ _ => readWord_eq_some_iff, ?values, fun _ => foreign_iff, ?bytes, ?reached, ?written⟩
  case values =>
    intro x y hx hy
    rw [compare_text hx hy]
    exact ⟨rfl, Nat.compare_eq_eq⟩
  case bytes =>
    intro a b h
    rw [compare_of_foreign h]
    exact ⟨compareTexts_eq a b, Std.LawfulEqCmp.compare_eq_iff_eq⟩
  case reached =>
    intro receipt m x y hx hy same shown written
    rw [Goal.isMetBy_of_matches same, shown, written, Goal.hasReached_text hx hy]
  case written =>
    intro cache token plan w m goal answered shown
    refine Wait.poll_of_isMetBy answered ?_
    rw [goal, Goal.isMetBy_of_written shown]

namespace Sample

-- A cache that shows an object with a version.
def showing (version : String) : Cache where
  find _ _ _ _ := .ok (Object.write (⟨versioned version, none, none, none⟩ : ConfigMap))
  select _ _ _ _ _ := .ok []

def awaiting (written : String) : Wait.Plan ConfigMap :=
  Wait.plan .default .updatedOrGone ConfigMap.resource.kind
    ((versioned written).receipt ⟨none, "a"⟩) ⟨.empty, none, none, none⟩ 0

end Sample

-- The largest natural below 2⁶⁴ in two ways, the next one, which is foreign, and a written version that
-- is no numeral.
theorem Version.compare_by_value_or_bytes_largest :
    let largest := "18446744073709551615"
    let next := "18446744073709551616"
    let receipt := (Sample.versioned largest).receipt ⟨none, "a"⟩
    let w : World := ⟨0, [], [], 0⟩
    compare "+0018446744073709551615" largest = .eq ∧
      Foreign next ∧ compare next "9" = .lt ∧
      Goal.updatedOrGone.isMetBy receipt (Sample.versioned "+0018446744073709551615") = true ∧
      Wait.poll (Sample.showing "-1") .beforehand (Sample.awaiting "-1") w = (.ok (), w.counted) := by
  intro largest next receipt w
  have ⟨_, values, _, unread, reached, written⟩ := compare_by_value_or_bytes (K := ConfigMap)
  let x : Numeral := ⟨true, 2, 18446744073709551615⟩
  let y : Numeral := ⟨false, 0, 18446744073709551615⟩
  have fits : x.value < wordBound := by decide
  have hx : x.text = "+0018446744073709551615" := by decide +kernel
  have hy : y.text = largest := by decide +kernel
  have above : Foreign next := by decide +kernel
  have shown : Wait.answer (Sample.showing "-1") (Sample.awaiting "-1") w 0 =
      .ok (Sample.versioned "-1") := rfl
  have bytewise := (unread next "9" (.inl above)).left
  refine ⟨?_, above, bytewise.trans (by decide +kernel), ?_, ?_⟩
  case refine_1 =>
    rw [← hx, ← hy]
    exact (values x y fits fits).right.mpr rfl
  case refine_2 =>
    have met := reached receipt (Sample.versioned x.text) x y fits fits (.of_uid rfl) rfl
    rw [← hx]
    exact (met (congrArg some hy.symm)).mpr (Nat.le_refl _)
  case refine_3 => exact written _ _ _ w _ rfl shown rfl

end ReadYourWrites
