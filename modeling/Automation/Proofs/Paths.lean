import Automation.Service.Routes
import Mathlib.Data.String.Basic

/-!
Where the resources of the service are. Each has one path, of names put together with slashes; an id among
them is not empty and has no slash in it. A path at which no resource is found is looked up again without the
slashes at its end.
-/
namespace Automation

section

open String

/-- Splitting a text at a character, with a part of it behind and a piece begun, goes on as splitting the
list of its characters does. -/
theorem splitOnAux_ofList (at_ : Char) (front piece rest : List Char) (found : List String) :
    splitOnAux (ofList (front ++ piece ++ rest)) (ofList [at_]) ⟨utf8Len front⟩
      ⟨utf8Len front + utf8Len piece⟩ 0 found =
      found.reverse ++ (List.splitOnPPrepend (· == at_) rest piece.reverse).map ofList := by
  induction rest generalizing front piece found with
  | nil =>
    have ended : Pos.Raw.atEnd (ofList (front ++ piece ++ [])) ⟨utf8Len front + utf8Len piece⟩ = true := by
      simp [-ofList_append]
    rw [splitOnAux, if_pos ended]
    simpa using extract_of_valid front piece []
  | cons c rest ih =>
    have more : ¬Pos.Raw.atEnd (ofList (front ++ piece ++ c :: rest))
        ⟨utf8Len front + utf8Len piece⟩ = true := by
      simpa [-ofList_append] using atEnd_of_valid (front ++ piece) (c :: rest)
    have here : Pos.Raw.get (ofList (front ++ piece ++ c :: rest)) ⟨utf8Len front + utf8Len piece⟩ = c := by
      simpa [-ofList_append] using get_of_valid (front ++ piece) (c :: rest)
    have next : Pos.Raw.next (ofList (front ++ piece ++ c :: rest)) ⟨utf8Len front + utf8Len piece⟩ =
        ⟨utf8Len front + utf8Len piece + c.utf8Size⟩ := by
      simpa [-ofList_append] using next_of_valid (front ++ piece) c rest
    have mark : Pos.Raw.get (ofList [at_]) 0 = at_ := get_of_valid [] [at_]
    have past : Pos.Raw.next (ofList [at_]) 0 = ⟨at_.utf8Size⟩ := by
      simpa using next_of_valid [] at_ []
    have last : Pos.Raw.atEnd (ofList [at_]) ⟨at_.utf8Size⟩ = true := by
      simpa using atEnd_of_valid [at_] []
    rw [splitOnAux, if_neg more, here, mark]
    by_cases is : c = at_
    · subst is
      have cut : Pos.Raw.extract (ofList (front ++ piece ++ c :: rest)) ⟨utf8Len front⟩
          ⟨utf8Len front + utf8Len piece⟩ = ofList piece := extract_of_valid front piece (c :: rest)
      have back : (⟨utf8Len front + utf8Len piece + c.utf8Size⟩ : Pos.Raw).unoffsetBy ⟨c.utf8Size⟩ =
          ⟨utf8Len front + utf8Len piece⟩ := Pos.Raw.ext (Nat.add_sub_cancel _ _)
      have goesOn := ih (front ++ piece ++ [c]) [] (ofList piece :: found)
      rw [if_pos (beq_self_eq_true _)]
      simp only [next, past, last, if_true, back, cut]
      simpa [-ofList_append, List.splitOnPPrepend_cons_eq_if, Nat.add_assoc] using goesOn
    · have goesOn := ih front (piece ++ [c]) found
      have still : (⟨utf8Len front + utf8Len piece⟩ : Pos.Raw).unoffsetBy 0 =
          ⟨utf8Len front + utf8Len piece⟩ := rfl
      rw [if_neg (by simpa using is), still, next]
      simpa [-ofList_append, List.splitOnPPrepend_cons_eq_if, is, Nat.add_assoc] using goesOn

/-- A text is split at a character where the list of its characters is. -/
theorem splitOn_ofList (s : String) (at_ : Char) :
    s.splitOn (ofList [at_]) = (s.toList.splitOn at_).map ofList := by
  have whole := splitOnAux_ofList at_ [] [] s.toList []
  simpa [splitOn, List.splitOn] using whole

end

theorem splitOn_ne_nil (s : String) (at_ : Char) : s.splitOn (.ofList [at_]) ≠ [] := by
  rw [splitOn_ofList]
  simp

/-- Pieces without a character that are put together with it are what is split at it. -/
theorem splitOn_intercalate {pieces : List String} {at_ : Char} (some_ : pieces ≠ [])
    (whole : ∀ p ∈ pieces, at_ ∉ p.toList) :
    ((String.ofList [at_]).intercalate pieces).splitOn (.ofList [at_]) = pieces := by
  have wholes : ∀ cs ∈ pieces.map String.toList, at_ ∉ cs := by simpa using whole
  rw [splitOn_ofList, String.toList_intercalate, String.toList_ofList,
    List.splitOn_intercalate at_ wholes (by simpa using some_), List.map_map]
  simp

/-- No piece has the character in it at which the list was split. -/
theorem notMem_of_mem_splitOn {at_ : Char} {cs piece : List Char} (there : piece ∈ cs.splitOn at_) :
    at_ ∉ piece := by
  induction cs generalizing piece with
  | nil => simp_all
  | cons c rest ih =>
    rw [List.splitOn_cons_eq_if_modifyHead] at there
    obtain ⟨first, others, split⟩ := List.exists_cons_of_ne_nil (List.splitOn_ne_nil at_ rest)
    split at there
    · rcases List.mem_cons.mp there with rfl | there
      · exact List.not_mem_nil
      · exact ih there
    · rename_i other
      rw [split, List.modifyHead_cons] at there
      rcases List.mem_cons.mp there with rfl | there
      · rintro (_ | ⟨_, inside⟩)
        · simp at other
        · exact ih (split ▸ List.mem_cons_self) inside
      · exact ih (split ▸ List.mem_cons_of_mem _ there)

/-- A text is split at a character into pieces without it, from which it is put together again. -/
theorem splitOn_eq_iff {s : String} {at_ : Char} {pieces : List String} (some_ : pieces ≠ []) :
    s.splitOn (.ofList [at_]) = pieces ↔
      s = (String.ofList [at_]).intercalate pieces ∧ ∀ p ∈ pieces, at_ ∉ p.toList := by
  constructor
  · rintro rfl
    rw [splitOn_ofList]
    refine ⟨?_, fun p there => ?_⟩
    · apply String.toList_injective
      rw [String.toList_intercalate, List.map_map]
      simp [Function.comp_def, List.intercalate_splitOn]
    · obtain ⟨cs, inside, rfl⟩ := List.mem_map.mp there
      simpa using notMem_of_mem_splitOn inside
  · rintro ⟨rfl, whole⟩
    exact splitOn_intercalate some_ whole

namespace Service.Resource

/-- The names on the way to a resource. -/
def names : Resource → List String
  | .root => [""]
  | .health => ["health"]
  | .workflows => ["api", "v1", "workflows"]
  | .workflow id => ["api", "v1", "workflows", id]
  | .runs id => ["api", "v1", "workflows", id, "run"]
  | .execution id => ["api", "v1", "executions", id]
  | .log id => ["api", "v1", "executions", id, "logs"]
  | .load => ["api", "v1", "dispatcher", "status"]

/-- The path of a resource. -/
def path (r : Resource) : String := "/".intercalate ("" :: r.names)

/-- The id of the resource, if it has one, can be part of a path. -/
def Placeable : Resource → Prop
  | .workflow id | .runs id | .execution id | .log id => id ≠ "" ∧ '/' ∉ id.toList
  | _ => True

/-- A path leads to a resource just where it is the path of the resource. -/
theorem ofPath?_eq_some_iff {path : String} {r : Resource} :
    ofPath? path = some r ↔ r.Placeable ∧ path = r.path := by
  constructor
  · intro found
    obtain ⟨made, whole⟩ : path = "/".intercalate (path.splitOn "/") ∧
        ∀ name ∈ path.splitOn "/", '/' ∉ name.toList := (splitOn_eq_iff (splitOn_ne_nil _ _)).mp rfl
    unfold ofPath? at found
    generalize path.splitOn "/" = names at made whole found
    -- a case for each form that the names may have
    repeat' split at found
    all_goals cases found
    all_goals first | exact ⟨trivial, made⟩ | exact ⟨⟨‹_›, whole _ (by simp)⟩, made⟩
  · rintro ⟨placeable, rfl⟩
    have whole : ∀ name ∈ "" :: r.names, '/' ∉ name.toList := by
      cases r <;> simp_all [names, Placeable]
    have split : r.path.splitOn "/" = "" :: r.names := splitOn_intercalate (List.cons_ne_nil _ _) whole
    unfold ofPath?
    rw [split]
    cases r <;> first | rfl | exact if_neg placeable.1

/-- A request to the path of a resource is led there. -/
theorem locate?_path {r : Resource} (placeable : r.Placeable) : locate? r.path = some r := by
  rw [locate?, ofPath?_eq_some_iff.mpr ⟨placeable, rfl⟩]

end Service.Resource
end Automation
