import SqlMapper.Fault
import SqlMapper.Text.Segments

/-!
# Scanning a template

A template is text with tokens between an open and a close marker. A
backslash right before an open marker makes it plain text, and inside a
token a backslash right before a close marker makes that one part of the
content; the backslash is dropped in both cases. A token that is never
closed is plain text, and so is the rest of the template behind it.

## Main definitions

* `Markers` — the two markers.
* `Template` — the literals and token contents of a scanned template.
* `Markers.scan` — the scan.
* `Template.fill` — puts a text for every token.

A marker that ends in a backslash can leave no room for an escape: an open
marker follows a backslash, but that backslash is the end of the marker
before it. Such a scan stops there and its template is not `intact`.
-/

namespace SqlMapper

/-- The markers around a token. -/
structure Markers where
  opening : List Char
  closing : List Char
  deriving DecidableEq, Repr

/-- The markers that templates use by default. -/
def Markers.default : Markers := { opening := ['#', '\x7b'], closing := ['\x7d'] }

/-- A scanned template: a literal, then contents each followed by a
literal. -/
structure Template where
  lead : List Char
  tokens : List (List Char × List Char)
  /-- The scan reached the end. -/
  intact : Bool
  deriving DecidableEq, Repr

namespace Template

/-- A template without tokens. -/
def literal (text : List Char) : Template := { lead := text, tokens := [], intact := true }

/-- A template whose scan stopped. -/
def broken : Template := { lead := [], tokens := [], intact := false }

/-- The template with text in front. -/
def prepend (text : List Char) (t : Template) : Template := { t with lead := text ++ t.lead }

/-- The template with a token in front. -/
def prependToken (content : List Char) (t : Template) : Template :=
  { lead := [], tokens := (content, t.lead) :: t.tokens, intact := t.intact }

/-- The contents of the tokens, in order. -/
def contents (t : Template) : List (List Char) := t.tokens.map Prod.fst

end Template

/-! ## Finding markers -/

/-- The text before and after the first occurrence of a marker. -/
def findMarker (marker : List Char) (cs : List Char) : Option (List Char × List Char) :=
  match Text.dropPrefix? marker cs with
  | some after => some ([], after)
  | none =>
      match cs with
      | [] => none
      | c :: rest => (findMarker marker rest).map fun (before, after) => (c :: before, after)

/-- A found marker splits the text. -/
theorem findMarker_eq_append {marker cs before after : List Char}
    (h : findMarker marker cs = some (before, after)) : cs = before ++ marker ++ after := by
  induction cs generalizing before after with
  | nil =>
      unfold findMarker at h
      split at h
      · next rest hrest =>
          obtain ⟨rfl, rfl⟩ := Prod.mk.inj (Option.some.inj h)
          simpa using Text.dropPrefix?_eq_some_iff.mp hrest
      · simp at h
  | cons c cs ih =>
      unfold findMarker at h
      split at h
      · next rest hrest =>
          obtain ⟨rfl, rfl⟩ := Prod.mk.inj (Option.some.inj h)
          simpa using Text.dropPrefix?_eq_some_iff.mp hrest
      · simp only [Option.map_eq_some_iff] at h
        obtain ⟨⟨b, a⟩, hfound, heq⟩ := h
        obtain ⟨rfl, rfl⟩ := Prod.mk.inj heq
        simp [ih hfound]

/-- What follows a marker that is not empty is shorter than the text. -/
theorem findMarker_length {marker cs before after : List Char} (hm : marker ≠ [])
    (h : findMarker marker cs = some (before, after)) : after.length < cs.length := by
  have hpos : 0 < marker.length := List.length_pos_iff.mpr hm
  have := congrArg List.length (findMarker_eq_append h)
  simp only [List.length_append] at this
  omega

/-! ## Scanning -/

namespace Markers

/-- Both markers are there to be found. -/
def usable (m : Markers) : Prop := m.opening ≠ [] ∧ m.closing ≠ []

instance (m : Markers) : Decidable m.usable := inferInstanceAs (Decidable (_ ∧ _))

/-- The content of a token and the text behind its close marker, given the
text behind the open marker. -/
def readContent (closing : List Char) (hc : closing ≠ []) (cs : List Char) :
    Option (List Char × List Char) :=
  match _h : findMarker closing cs with
  | none => none
  | some (before, after) =>
      if before.getLast? = some '\\' then
        (readContent closing hc after).map fun (content, rest) =>
          (before.dropLast ++ closing ++ content, rest)
      else some (before, after)
termination_by cs.length
decreasing_by exact findMarker_length hc _h

/-- What follows a token is no longer than what follows its open marker. -/
theorem readContent_length {closing : List Char} {hc : closing ≠ []}
    {cs content rest : List Char} (h : readContent closing hc cs = some (content, rest)) :
    rest.length < cs.length := by
  induction cs using readContent.induct closing hc
    generalizing content rest with
  | case1 cs hfound =>
      rw [readContent] at h
      split at h <;> simp_all
  | case2 cs before after hfound hlast ih =>
      rw [readContent] at h
      split at h
      · simp at h
      · next b a hfound' =>
          obtain ⟨rfl, rfl⟩ : b = before ∧ a = after := by
            rw [hfound] at hfound'
            simpa [eq_comm] using hfound'
          rw [if_pos hlast, Option.map_eq_some_iff] at h
          obtain ⟨⟨c, r⟩, hread, heq⟩ := h
          obtain ⟨rfl, rfl⟩ := Prod.mk.inj heq
          exact Nat.lt_trans (ih hread) (findMarker_length hc hfound)
  | case3 cs before after hfound hlast =>
      rw [readContent] at h
      split at h
      · simp at h
      · next b a hfound' =>
          obtain ⟨rfl, rfl⟩ : b = before ∧ a = after := by
            rw [hfound] at hfound'
            simpa [eq_comm] using hfound'
          rw [if_neg hlast] at h
          obtain ⟨rfl, rfl⟩ := Prod.mk.inj (Option.some.inj h)
          exact findMarker_length hc hfound

/-- Scans the text behind the character `previous`, which is none at the
start of the template. -/
def scanFrom (m : Markers) (hm : m.usable) (previous : Option Char) (cs : List Char) :
    Template :=
  match _ho : findMarker m.opening cs with
  | none => .literal cs
  | some (before, after) =>
      if before.getLast?.or previous = some '\\' then
        if before.isEmpty then .broken
        else
          (scanFrom m hm m.opening.getLast? after).prepend (before.dropLast ++ m.opening)
      else
        match _hc : readContent m.closing hm.2 after with
        | none => .literal cs
        | some (content, rest) =>
            ((scanFrom m hm m.closing.getLast? rest).prependToken content).prepend before
termination_by cs.length
decreasing_by
  · exact findMarker_length hm.1 _ho
  · exact Nat.lt_trans (readContent_length _hc) (findMarker_length hm.1 _ho)

/-- The literals and token contents of a template. With an empty marker
there are no tokens. -/
def scan (m : Markers) (template : String) : Template :=
  if hm : m.usable then scanFrom m hm none template.toList else .literal template.toList

end Markers

/-! ## Filling -/

namespace Template

/-- Puts a text for every token, in order, and each one followed by its
literal. -/
def fillTokens {σ : Type} (handler : String → ExceptT Fault (StateM σ) String) :
    List (List Char × List Char) → ExceptT Fault (StateM σ) String
  | [] => return ""
  | (content, after) :: tokens => do
      let text ← handler (String.ofList content)
      let others ← fillTokens handler tokens
      return text ++ String.ofList after ++ others

/-- The template with a text for every token. The first token for which
there is none ends the work. -/
def fill {σ : Type} (t : Template) (handler : String → ExceptT Fault (StateM σ) String) :
    ExceptT Fault (StateM σ) String := do
  let others ← fillTokens handler t.tokens
  return String.ofList t.lead ++ others

end Template

/-- Replaces every token of a template by the handler's text for its
content. -/
def Markers.replace {σ : Type} (m : Markers) (template : String)
    (handler : String → ExceptT Fault (StateM σ) String) : ExceptT Fault (StateM σ) String := do
  let scanned := m.scan template
  let text ← scanned.fill handler
  if scanned.intact then return text
  else throw (.builder (.brokenEscape (String.ofList m.opening)))

end SqlMapper
