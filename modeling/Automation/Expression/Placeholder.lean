import Automation.Text.Blank

/-!
Placeholders in settings: two opening braces, blanks, `context.outputs.`, a node id, a dot, a key,
blanks and two closing braces. A text is cut at the leftmost placeholders; what lies between them is
kept as it is.
-/
namespace Automation

open Text

structure Placeholder where
  node : List Char
  key : List Char
  deriving DecidableEq, Repr

namespace Placeholder

def opening : List Char := ['\x7b', '\x7b']

def root : List Char := "context.outputs.".toList

/-- The characters of a node id in a placeholder. -/
def isIdChar (c : Char) : Bool := c != '.' && c != '\x7d' && !isBlank c

/-- The characters between the dot and the closing braces. -/
def isKeyChar (c : Char) : Bool := c != '\x7d'

/-- What follows a given beginning of a text. -/
def after? : List Char → List Char → Option (List Char)
  | [], cs => some cs
  | _ :: _, [] => none
  | p :: ps, c :: cs => if p = c then after? ps cs else none

theorem after?_length : ∀ {start cs rest : List Char}, after? start cs = some rest →
    cs.length = start.length + rest.length
  | [], cs, rest, h => by
    simp only [after?, Option.some.injEq] at h
    simp [h]
  | p :: ps, [], rest, h => by simp [after?] at h
  | p :: ps, c :: cs, rest, h => by
    simp only [after?] at h
    split at h
    · have := after?_length h
      simp only [List.length_cons]
      omega
    · exact absurd h (by simp)

/-- The key in a run of characters: the run without the blanks at its end, or its first character
when it is all blank. -/
def keyOf (first : Char) (run : List Char) : List Char :=
  let key := dropEnd isBlank run
  if key.isEmpty then [first] else key

/-- The part of a placeholder after its path, and what follows it. -/
def reference? (cs : List Char) : Option (Placeholder × List Char) :=
  let node := cs.takeWhile isIdChar
  if node.isEmpty then none
  else
    match cs.dropWhile isIdChar with
    | '.' :: afterDot =>
      match afterDot.takeWhile isKeyChar, afterDot.dropWhile isKeyChar with
      | first :: run, '\x7d' :: '\x7d' :: rest => some (⟨node, keyOf first (first :: run)⟩, rest)
      | _, _ => none
    | _ => none

/-- The placeholder with which a text begins, and what follows it. -/
def read? (cs : List Char) : Option (Placeholder × List Char) :=
  match after? opening cs with
  | none => none
  | some afterOpening =>
    match after? root (dropStart isBlank afterOpening) with
    | none => none
    | some afterRoot => reference? afterRoot

theorem length_dropWhile_le (p : Char → Bool) (cs : List Char) :
    (cs.dropWhile p).length ≤ cs.length :=
  (List.dropWhile_suffix p).length_le

theorem reference?_length {cs rest : List Char} {p : Placeholder}
    (h : reference? cs = some (p, rest)) : rest.length < cs.length := by
  have hid := length_dropWhile_le isIdChar cs
  unfold reference? at h
  dsimp only at h
  split at h
  · exact absurd h (by simp)
  · split at h
    · rename_i afterDot hdot
      have hkey := length_dropWhile_le isKeyChar afterDot
      split at h
      · rename_i hdrop
        simp only [Option.some.injEq, Prod.mk.injEq] at h
        rw [hdot] at hid
        rw [hdrop] at hkey
        rw [← h.2]
        simp only [List.length_cons] at hid hkey
        omega
      · exact absurd h (by simp)
    · exact absurd h (by simp)

theorem read?_length {cs rest : List Char} {p : Placeholder} (h : read? cs = some (p, rest)) :
    rest.length < cs.length := by
  unfold read? at h
  split at h
  · exact absurd h (by simp)
  · rename_i afterOpening hopen
    split at h
    · exact absurd h (by simp)
    · rename_i afterRoot hroot
      have h1 := after?_length hopen
      have h2 := after?_length hroot
      have h3 := reference?_length h
      have h4 := length_dropWhile_le isBlank afterOpening
      unfold dropStart at h2
      omega

end Placeholder

inductive Piece where
  | char (c : Char)
  | hole (p : Placeholder)
  deriving DecidableEq, Repr

/-- Cuts a text at its placeholders, from the left. -/
def pieces (cs : List Char) : List Piece :=
  match cs with
  | [] => []
  | c :: rest =>
    match _h : Placeholder.read? (c :: rest) with
    | some (p, after) => .hole p :: pieces after
    | none => .char c :: pieces rest
termination_by cs.length
decreasing_by
  · exact Placeholder.read?_length _h
  · simp

end Automation
