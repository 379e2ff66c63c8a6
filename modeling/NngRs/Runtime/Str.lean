/-
**`str::split_once`: a text before and after the first occurrence of a separator.**

* `splitOnceAt_append` — where the separator starts with a character that does not occur before, it is
  found behind all that.
-/

import Mathlib.Data.List.Basic

namespace Str

/-- The characters before and after the first occurrence of `sep`, which is not empty. -/
def splitOnceAt (sep : List Char) : List Char → Option (List Char × List Char)
  | [] => none
  | c :: rest =>
    if sep <+: c :: rest then some ([], (c :: rest).drop sep.length)
    else (splitOnceAt sep rest).map fun parts => (c :: parts.1, parts.2)

/-- `str::split_once`. -/
def splitOnce (text sep : String) : Option (String × String) :=
  (splitOnceAt sep.toList text.toList).map fun parts => (String.ofList parts.1, String.ofList parts.2)

example : splitOnce "tls+tcp://[::1]:80" "://" = some ("tls+tcp", "[::1]:80") := by decide

variable {first : Char} {more before after : List Char}

/-- **The separator is found behind characters that are not its first.** -/
theorem splitOnceAt_append (absent : first ∉ before) :
    splitOnceAt (first :: more) (before ++ (first :: more) ++ after) = some (before, after) := by
  induction before with
  | nil =>
    have found : first :: more <+: first :: more ++ after := List.prefix_append _ _
    rw [List.nil_append, List.cons_append, splitOnceAt, ← List.cons_append, if_pos found,
      List.drop_left' rfl]
  | cons c before ih =>
    obtain ⟨different, absent⟩ := not_or.mp (List.mem_cons.not.mp absent)
    have later : ¬ first :: more <+: c :: (before ++ (first :: more) ++ after) := fun here =>
      different (List.cons_prefix_cons.mp here).1
    rw [List.cons_append, List.cons_append, splitOnceAt, if_neg later, ih absent]
    rfl

theorem splitOnce_append {scheme rest : String} (absent : ':' ∉ scheme.toList) :
    splitOnce (scheme ++ "://" ++ rest) "://" = some (scheme, rest) := by
  have parts : splitOnceAt [':', '/', '/'] (scheme.toList ++ [':', '/', '/'] ++ rest.toList) =
      some (scheme.toList, rest.toList) := splitOnceAt_append absent
  have text : (scheme ++ "://" ++ rest).toList = scheme.toList ++ [':', '/', '/'] ++ rest.toList := by
    rw [String.toList_append, String.toList_append]
    rfl
  have sep : "://".toList = [':', '/', '/'] := by decide
  rw [splitOnce, text, sep, parts, Option.map_some, String.ofList_toList, String.ofList_toList]

end Str
