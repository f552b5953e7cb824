import SqlMapper.Proofs.Template.Escaping

/-!
# The scan loses nothing

If every token is answered by the token as it is written, the text comes out
as it went in: the literals, the tokens and whatever stands behind a token
that is never closed cover the text, and nothing of it twice. A text may be
as malformed as it likes. Only a backslash right before an open marker would
be dropped, so the text must have none.

## Main definitions

* `Markers.writtenToken` — a content as it stands in a template.
* `Markers.Covers` — the template is all of the text.

## Main results

* `Markers.eq_of_readContent` — the text that a content was read from.
* `Markers.covers_scanFrom` — the scan covers the text.
* `Markers.replace_writtenToken` — the text comes out as it went in.
-/

namespace SqlMapper

namespace Markers

/-- A content as it stands in a template: with a backslash before every close
marker of its own, between the two markers. -/
def writtenToken (m : Markers) (content : String) : String :=
  String.ofList (m.opening ++ escape m.closing content.toList ++ m.closing)

/-- The template is all of the text: its literals and written tokens make up
the text, and no token is passed over. A literal with a token behind it has no
open marker, and the first open marker in the last literal is never closed. -/
structure Covers (m : Markers) (t : Template) (cs : List Char) : Prop where
  intact : t.intact = true
  text : t.woven (t.references.map m.writtenToken) = String.ofList cs
  literals : ∀ literal ∈ (t.lead :: t.followers).dropLast, ¬ m.opening <:+: literal
  last : ∀ hc literal before after, literal ∈ (t.lead :: t.followers).getLast? →
    findMarker m.opening literal = some (before, after) → readContent m.closing hc after = none

/-- A content was read from its escaped form and the close marker behind
it. -/
theorem eq_of_readContent {closing cs content rest : List Char} {hc : closing ≠ []}
    (h : Escapable closing) (hread : readContent closing hc cs = some (content, rest)) :
    cs = escape closing content ++ closing ++ rest := by
  induction cs using induction_on_content hc generalizing content with
  | unclosed cs hfound =>
      rw [readContent_of_none hfound] at hread
      cases hread
  | close cs before after hfound hlast =>
      rw [readContent_of_close hfound hlast] at hread
      obtain ⟨rfl, rfl⟩ := Prod.mk.inj (Option.some.inj hread)
      rw [escape_of_not_isInfix (not_isInfix_of_findMarker hc hfound)]
      exact findMarker_eq_append hfound
  | escape cs before after hfound ih =>
      rw [readContent_of_escape hfound, Option.map_eq_some_iff] at hread
      obtain ⟨⟨inner, left⟩, hinner, heq⟩ := hread
      obtain ⟨rfl, rfl⟩ := Prod.mk.inj heq
      have hbefore : ¬ closing <:+: before := by
        intro hin
        exact not_isInfix_of_findMarker hc hfound (hin.trans (List.prefix_append _ _).isInfix)
      calc
        cs = before ++ ['\\'] ++ closing ++ after := findMarker_eq_append hfound
        _ = before ++ ['\\'] ++ closing ++ (escape closing inner ++ closing ++ left) :=
          congrArg (before ++ ['\\'] ++ closing ++ ·) (ih hinner)
        _ = before ++ ['\\'] ++ closing ++ escape closing inner ++ closing ++ left := by
          simp only [List.append_assoc]
        _ = escape closing (before ++ closing ++ inner) ++ closing ++ left := by
          rw [escape_append_marker h hbefore]

section Covering

variable {m : Markers} {cs before content rest : List Char}

/-- A text is a literal if its first open marker is never closed. -/
theorem covers_literal
    (h : ∀ hc before after, findMarker m.opening cs = some (before, after) →
      readContent m.closing hc after = none) : m.Covers (.literal cs) cs where
  intact := rfl
  text := Template.woven_literal cs
  literals literal hmem := by simp [Template.literal, Template.followers] at hmem
  last hc literal before after hmem hfound := by
    obtain rfl : cs = literal := by simpa [Template.literal, Template.followers] using hmem
    exact h hc before after hfound

/-- A literal without open markers and a written token can stand in front. -/
theorem Covers.token {t : Template} (ht : m.Covers t rest) (hbefore : ¬ m.opening <:+: before) :
    m.Covers ((t.prependToken content).prepend before)
      (before ++ m.opening ++ (escape m.closing content ++ m.closing ++ rest)) := by
  have hliterals : ((t.prependToken content).prepend before).lead ::
      ((t.prependToken content).prepend before).followers = before :: t.lead :: t.followers := by
    simp [Template.prepend, Template.prependToken, Template.followers]
  constructor
  · exact ht.intact
  · rw [Template.references_prepend, Template.references_prependToken, List.map_cons,
      Template.woven_prepend, Template.woven_prependToken, ht.text]
    simp only [writtenToken, String.toList_ofList, String.ofList_append, String.append_assoc]
  · rw [hliterals, List.dropLast_cons_cons]
    intro literal hmem
    rcases List.mem_cons.mp hmem with rfl | hmem
    · exact hbefore
    · exact ht.literals literal hmem
  · rw [hliterals, List.getLast?_cons_cons]
    exact ht.last

/-- Where no open marker has a backslash before it, the scan's template is all
of the text. -/
theorem covers_scanFrom (hc : Escapable m.closing) {hm : m.usable} {previous : Option Char}
    (hprevious : previous ≠ some '\\') (h : ¬ '\\' :: m.opening <:+: cs) :
    m.Covers (scanFrom m hm previous cs) cs := by
  induction previous, cs using induction_on_rounds hm with
  | none previous cs hfound =>
      rw [scanFrom_of_none hfound]
      apply covers_literal
      intro hc before after hsome
      rw [hfound] at hsome
      cases hsome
  | shared cs after hfound => exact absurd rfl hprevious
  | escape previous cs before after hfound ih =>
      have hcs : cs = before ++ '\\' :: m.opening ++ after := by
        simpa using findMarker_eq_append hfound
      exact absurd ⟨before, after, hcs.symm⟩ h
  | unclosed previous cs before after hfound hlast hread =>
      rw [scanFrom_of_unclosed hfound hlast hread]
      apply covers_literal
      intro hc b a hsome
      rw [hfound] at hsome
      obtain ⟨rfl, rfl⟩ := Prod.mk.inj (Option.some.inj hsome)
      exact hread
  | token previous cs before after content rest hfound hlast hread ih =>
      have hcs : cs = before ++ m.opening ++ (escape m.closing content ++ m.closing ++ rest) :=
        eq_of_readContent hc hread ▸ findMarker_eq_append hfound
      have hclosing : m.closing.getLast? ≠ some '\\' := by
        intro hend
        exact hc.plain (List.mem_of_getLast? hend)
      have hrest : ¬ '\\' :: m.opening <:+: rest := by
        intro hin
        apply h
        rw [hcs, ← List.append_assoc]
        exact hin.trans (List.suffix_append _ _).isInfix
      rw [scanFrom_of_token hfound hlast hread, hcs]
      exact (ih hclosing hrest).token (not_isInfix_of_findMarker hm.1 hfound)

/-- Answering every token by the token as it is written gives back the text,
if no open marker in it has a backslash right before it; and every token is
answered. -/
theorem replace_writtenToken (ho : m.opening ≠ []) (hc : Escapable m.closing)
    {template : String} (h : ¬ '\\' :: m.opening <:+: template.toList) {σ : Type} (s : σ) :
    (m.replace template fun content => return m.writtenToken content).run s =
        (.ok template, s) ∧
      m.Covers (m.scan template) template.toList := by
  have hstart : none ≠ some '\\' := by simp
  have hcovers : m.Covers (m.scan template) template.toList := by
    rw [scan, dif_pos ⟨ho, hc.ne_nil⟩]
    exact covers_scanFrom hc hstart h
  refine ⟨?_, hcovers⟩
  rw [replace_of_intact hcovers.intact, List.mapM_pure, pure_bind, hcovers.text,
    String.ofList_toList]
  exact run_pure template s

/-- A stray close marker, an open marker inside a content, escaped close
markers, two tokens without a literal between them and a token that is never
closed. -/
theorem replace_writtenToken_malformed :
    let template := "a\x7d #\x7bb#\x7bc\\\x7d\x7d#\x7b\x7d#\x7be\\\x7d"
    ¬ '\\' :: Markers.default.opening <:+: template.toList ∧
      (Markers.default.replace template
          fun content => return Markers.default.writtenToken content).run () =
        (.ok template, ()) ∧
      (Markers.default.scan template).references = ["b#\x7bc\x7d", ""] := by
  intro template
  have hplain : ¬ '\\' :: Markers.default.opening <:+: template.toList := by decide +kernel
  obtain ⟨hrun, -⟩ := replace_writtenToken (by decide) escapable_default_closing hplain ()
  exact ⟨hplain, hrun, by decide +kernel⟩

end Covering

end Markers

end SqlMapper
