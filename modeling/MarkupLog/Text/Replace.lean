/-!
# Replacing parts of a text

The parts of a text that equal a pattern, found from left to right without overlap, are replaced.
-/

namespace MarkupLog.Text

/-- What follows `pattern` at the start of a text; an empty pattern is never found. -/
def after? (pattern cs : List Char) : Option (List Char) :=
  if pattern.isEmpty then none
  else if pattern.isPrefixOf cs then some (cs.drop pattern.length) else none

theorem length_after? {pattern cs rest : List Char} (h : after? pattern cs = some rest) :
    rest.length < cs.length := by
  unfold after? at h
  split at h
  · cases h
  · rename_i hp
    split at h
    · rename_i hpre
      cases h
      have hlen := (List.isPrefixOf_iff_prefix.1 hpre).length_le
      cases pattern with
      | nil => simp at hp
      | cons c p =>
        simp only [List.length_drop, List.length_cons] at *
        omega
    · cases h

/-- The text with every occurrence of `pattern` replaced. -/
def replaceAll (pattern new : List Char) (cs : List Char) : List Char :=
  match h : after? pattern cs with
  | some rest =>
    have := length_after? h
    new ++ replaceAll pattern new rest
  | none =>
    match cs with
    | [] => []
    | c :: rest => c :: replaceAll pattern new rest
termination_by cs.length

/-- The text up to and with the first occurrence of `pattern` on the same line, and the rest. -/
def throughOnLine? (pattern : List Char) : List Char → Option (List Char × List Char)
  | [] => none
  | c :: cs =>
    match after? pattern (c :: cs) with
    | some rest => some (pattern, rest)
    | none =>
      if c = '\n' then none
      else (throughOnLine? pattern cs).map fun (found, rest) => (c :: found, rest)

theorem length_throughOnLine? {pattern cs : List Char} {r : List Char × List Char}
    (h : throughOnLine? pattern cs = some r) : r.2.length < cs.length := by
  induction cs generalizing r with
  | nil => cases h
  | cons c cs ih =>
    unfold throughOnLine? at h
    split at h
    · rename_i ha
      cases h
      exact length_after? ha
    · split at h
      · cases h
      · obtain ⟨p, hp, rfl⟩ := Option.map_eq_some_iff.1 h
        have := ih hp
        simp only [List.length_cons]
        omega

/-- The text with every shortest stretch from `pattern` to `pattern` on one line put between `before`
and `behind`. -/
def wrapStretches (pattern before behind : List Char) (cs : List Char) : List Char :=
  match h : (after? pattern cs).bind (throughOnLine? pattern) with
  | some (stretch, rest) =>
    have : rest.length < cs.length := by
      obtain ⟨mid, hm, ht⟩ := Option.bind_eq_some_iff.1 h
      exact Nat.lt_trans (length_throughOnLine? ht) (length_after? hm)
    before ++ pattern ++ stretch ++ behind ++ wrapStretches pattern before behind rest
  | none =>
    match cs with
    | [] => []
    | c :: rest => c :: wrapStretches pattern before behind rest
termination_by cs.length

/-- The text with every line end put between `before` and `behind`; a return that precedes a line
feed belongs to it. -/
def wrapLineEnds (before behind : List Char) : List Char → List Char
  | [] => []
  | '\r' :: '\n' :: cs => before ++ '\r' :: '\n' :: behind ++ wrapLineEnds before behind cs
  | c :: cs =>
    if c = '\n' then before ++ '\n' :: behind ++ wrapLineEnds before behind cs
    else c :: wrapLineEnds before behind cs

end MarkupLog.Text
