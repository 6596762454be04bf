import AlertEngine.Sample

/-! # Message templates

In a template `#` followed by a name in braces stands for the value of a metric. A name is any
text without a closing brace, but not the empty one. Everything else is kept, and what is put in
is not looked at again.
-/

namespace AlertEngine.Template

/-- The text for a metric that a sample does not have. -/
def undefined : String := "undefined"

/-- A placeholder at the very front: its name and the text behind it. -/
def placeholder? : List Char → Option (List Char × List Char)
  | '#' :: '\x7b' :: rest =>
    match rest.takeWhile (· ≠ '\x7d'), rest.dropWhile (· ≠ '\x7d') with
    | c :: name, _ :: behind => some (c :: name, behind)
    | _, _ => none
  | _ => none

theorem length_of_placeholder? {text name behind : List Char}
    (h : placeholder? text = some (name, behind)) : behind.length < text.length := by
  unfold placeholder? at h
  split at h
  · next rest =>
    split at h
    · next c more d behind' hname hbehind =>
      have hle := (List.dropWhile_suffix (l := rest) (· ≠ '\x7d')).length_le
      rw [hbehind] at hle
      simp only [Option.some.injEq, Prod.mk.injEq] at h
      simp only [List.length_cons, ← h.2] at hle ⊢
      omega
    · simp at h
  · simp at h

/-- Fill every placeholder from left to right. -/
def fill (value : List Char → List Char) (text : List Char) : List Char :=
  match _h : placeholder? text with
  | some (name, behind) => value name ++ fill value behind
  | none =>
    match text with
    | [] => []
    | c :: rest => c :: fill value rest
termination_by text.length
decreasing_by
  · exact length_of_placeholder? _h
  · simp

/-- The text of a metric, or the word for a missing one. -/
def valueText (metrics : Keyed String Metric) (name : List Char) : List Char :=
  ((metrics.get? (String.ofList name)).elim undefined Metric.display).toList

def render (metrics : Keyed String Metric) (template : String) : String :=
  String.ofList (fill (valueText metrics) template.toList)

end AlertEngine.Template
