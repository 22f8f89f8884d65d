import Mathlib
import Cyclomatic.Path

/-!
# The parts of paths

A path is split at its slashes by positions in its bytes. The parts are those of its characters
(`Path.segments_eq_splitOn`).
-/

namespace Cyclomatic.Path

open String

/-- Splitting at slashes, in the middle of a text: `l` has been split off, and `m` is what the part has so
far. -/
theorem splitOnAux_slash (l m r : List Char) (acc : List String) :
    splitOnAux (ofList (l ++ m ++ r)) "/" ⟨utf8Len l⟩ ⟨utf8Len l + utf8Len m⟩ 0 acc =
      acc.reverse ++ (List.splitOnPPrepend (· == '/') r m.reverse).map ofList := by
  induction r generalizing l m acc with
  | nil =>
    have hend : Pos.Raw.atEnd (ofList (l ++ m ++ [])) ⟨utf8Len l + utf8Len m⟩ = true := by
      simpa using atEnd_of_valid (l ++ m) []
    rw [splitOnAux, if_pos hend, extract_of_valid]
    simp
  | cons c r ih =>
    have hend : ¬Pos.Raw.atEnd (ofList (l ++ m ++ c :: r)) ⟨utf8Len l + utf8Len m⟩ = true := by
      simpa using atEnd_of_valid (l ++ m) (c :: r)
    have hget : Pos.Raw.get (ofList (l ++ m ++ c :: r)) ⟨utf8Len l + utf8Len m⟩ = c := by
      simpa using get_of_valid (l ++ m) (c :: r)
    have hnext : Pos.Raw.next (ofList (l ++ m ++ c :: r)) ⟨utf8Len l + utf8Len m⟩ =
        ⟨utf8Len l + utf8Len m + c.utf8Size⟩ := by
      simpa using next_of_valid (l ++ m) c r
    -- the separator has a single letter, so it is over after the first that agrees
    have hslash : Pos.Raw.get "/" 0 = '/' := by decide +kernel
    rw [splitOnAux, if_neg hend, hget, hslash, hnext, List.splitOnPPrepend_cons_eq_if]
    by_cases hc : c = '/'
    · subst hc
      have hsize : '/'.utf8Size = 1 := by decide +kernel
      have hover : Pos.Raw.next "/" 0 = ⟨1⟩ := by decide +kernel
      have hover' : Pos.Raw.atEnd "/" ⟨1⟩ = true := by decide +kernel
      have hback : (⟨utf8Len l + utf8Len m + 1⟩ : Pos.Raw).unoffsetBy ⟨1⟩ =
          ⟨utf8Len l + utf8Len m⟩ := by
        simp [Pos.Raw.unoffsetBy]
      rw [if_pos (beq_self_eq_true '/'), if_pos (beq_self_eq_true '/')]
      dsimp only
      rw [hover, if_pos hover', hsize, hback, extract_of_valid]
      simpa [hsize, Nat.add_assoc] using ih (l ++ m ++ ['/']) [] (ofList m :: acc)
    · have hback : (⟨utf8Len l + utf8Len m⟩ : Pos.Raw).unoffsetBy 0 =
          ⟨utf8Len l + utf8Len m⟩ := by
        simp [Pos.Raw.unoffsetBy]
      rw [if_neg (by simpa using hc), if_neg (by simpa using hc), hback, hnext]
      simpa [Nat.add_assoc] using ih l (m ++ [c]) acc

/-- The parts of a path are the texts between the slashes among its characters. -/
theorem segments_eq_splitOn (path : String) :
    segments path = (path.toList.splitOn '/').map ofList := by
  have h := splitOnAux_slash [] [] path.toList []
  rw [List.nil_append, List.nil_append, ofList_toList, List.reverse_nil, List.nil_append] at h
  rw [segments, String.splitOn, if_neg (by decide)]
  exact h

end Cyclomatic.Path
