import SqlMapper.Proofs.Template.Filling
import SqlMapper.Proofs.Template.Scanning

/-!
# Writing a template that scans as given

Any literals and contents can be written as a template: the open marker is
escaped in the literals, the close marker in the contents, and every content
stands between the two. Only a backslash at the end of a content, or of a
literal with a token behind it, would be taken for an escape. Apart from
that the scan gives back what was written, so filling the written template
asks for the contents as they are and keeps the literals as they are.

## Main definitions

* `Markers.write` — the template of literals and contents.
* `Template.Writable` — no backslash stands where it would escape a marker.

## Main results

* `Markers.scan_write` — scanning gives back what was written.
* `Markers.replace_write` — filling a written template, call by call.
-/

namespace SqlMapper

/-- No backslash stands at the end of a content, or of a literal with a token
behind it. -/
structure Template.Writable (t : Template) : Prop where
  literals : ∀ literal ∈ (t.lead :: t.followers).dropLast, literal.getLast? ≠ some '\\'
  contents : ∀ content ∈ t.contents, content.getLast? ≠ some '\\'

theorem Template.prepend_prepend (front back : List Char) (t : Template) :
    (t.prepend back).prepend front = t.prepend (front ++ back) := by
  simp [prepend]

private theorem getLast?_ne_of_append {c : Char} {front back : List Char}
    (h : (front ++ back).getLast? ≠ some c) : back.getLast? ≠ some c := by
  intro hback
  apply h
  rw [List.getLast?_append, hback]
  rfl

namespace Markers

/-- The text of tokens, each with the literal behind it. -/
def writeTokens (m : Markers) : List (List Char × List Char) → List Char
  | [] => []
  | (content, literal) :: tokens =>
      m.opening ++ (escape m.closing content ++ m.closing ++
        (escape m.opening literal ++ writeTokens m tokens))

/-- The text of a template: the open markers are escaped in the literals and
the close markers in the contents. -/
def write (m : Markers) (t : Template) : String :=
  String.ofList (escape m.opening t.lead ++ m.writeTokens t.tokens)

/-! ## One content -/

section Contents

variable {closing : List Char} {hc : closing ≠ []}

/-- An escaped content is read back up to the close marker behind it. -/
theorem readContent_escape (h : Escapable closing) {content rest : List Char}
    (hlast : content.getLast? ≠ some '\\') :
    readContent closing hc (escape closing content ++ closing ++ rest) =
      some (content, rest) := by
  induction content using induction_on_marker hc with
  | plain content hplain =>
      rw [escape_of_not_isInfix hplain]
      exact readContent_of_close (findMarker_of_fresh (.of_not_isInfix h.unbordered hplain)) hlast
  | step stretch content hstretch ih =>
      have hread := ih (getLast?_ne_of_append hlast)
      rw [escape_append_marker h hstretch, List.append_assoc (stretch ++ ['\\'] ++ closing),
        List.append_assoc (stretch ++ ['\\'] ++ closing),
        readContent_of_escape (findMarker_of_fresh (.concat h.plain hstretch)), hread]
      rfl

end Contents

/-! ## One literal -/

section Literals

variable {m : Markers} {hm : m.usable} {previous : Option Char}
  {after content rest : List Char}

/-- An escaped literal with nothing behind it is read back. -/
theorem scanFrom_escape (ho : Escapable m.opening) (literal : List Char) :
    scanFrom m hm previous (escape m.opening literal) = .literal literal := by
  induction literal using induction_on_marker hm.1 generalizing previous with
  | plain literal hplain =>
      rw [escape_of_not_isInfix hplain]
      exact scanFrom_of_none (findMarker_eq_none_iff.mpr hplain)
  | step stretch literal hstretch ih =>
      rw [escape_append_marker ho hstretch,
        scanFrom_of_escape (findMarker_of_fresh (.concat ho.plain hstretch)), ih]
      rfl

/-- An escaped literal with a token behind it is read back up to that
token. -/
theorem scanFrom_escape_token (ho : Escapable m.opening) {literal : List Char}
    (hprevious : previous ≠ some '\\') (hlast : literal.getLast? ≠ some '\\')
    (hread : readContent m.closing hm.2 after = some (content, rest)) :
    scanFrom m hm previous (escape m.opening literal ++ (m.opening ++ after)) =
      ((scanFrom m hm m.closing.getLast? rest).prependToken content).prepend literal := by
  induction literal using induction_on_marker hm.1 generalizing previous with
  | plain literal hplain =>
      have hneither : literal.getLast?.or previous ≠ some '\\' := by
        cases hl : literal.getLast? with
        | none => exact hprevious
        | some c => rwa [hl] at hlast
      rw [escape_of_not_isInfix hplain, ← List.append_assoc]
      exact scanFrom_of_token (findMarker_of_fresh (.of_not_isInfix ho.unbordered hplain)) hneither
        hread
  | step stretch literal hstretch ih =>
      have hopening : m.opening.getLast? ≠ some '\\' := by
        intro hend
        exact ho.plain (List.mem_of_getLast? hend)
      rw [escape_append_marker ho hstretch, List.append_assoc,
        scanFrom_of_escape (findMarker_of_fresh (.concat ho.plain hstretch)),
        ih hopening (getLast?_ne_of_append hlast), Template.prepend_prepend]

end Literals

/-! ## The whole template -/

theorem escapable_default_opening : Escapable Markers.default.opening :=
  ⟨by decide, by decide, by decide⟩

theorem escapable_default_closing : Escapable Markers.default.closing :=
  ⟨by decide, by decide, by decide⟩

section Written

variable {m : Markers}

private theorem scanFrom_write (ho : Escapable m.opening) (hc : Escapable m.closing)
    {hm : m.usable} {previous : Option Char} (hprevious : previous ≠ some '\\')
    {lead : List Char} {tokens : List (List Char × List Char)} {intact : Bool}
    (ht : Template.Writable { lead, tokens, intact }) :
    scanFrom m hm previous (escape m.opening lead ++ m.writeTokens tokens) =
      { lead, tokens, intact := true } := by
  induction tokens generalizing lead previous with
  | nil =>
      rw [writeTokens, List.append_nil]
      exact scanFrom_escape ho lead
  | cons token tokens ih =>
      obtain ⟨content, literal⟩ := token
      have hlead : lead.getLast? ≠ some '\\' := ht.literals lead (by simp [Template.followers])
      have hcontent : content.getLast? ≠ some '\\' :=
        ht.contents content (by simp [Template.contents])
      have hrest : Template.Writable { lead := literal, tokens, intact } := {
        literals := fun l hl => ht.literals l (by
          simp only [Template.followers, List.map_cons, List.dropLast_cons_cons] at hl ⊢
          exact List.mem_cons_of_mem _ hl)
        contents := fun c hmem => ht.contents c (by
          simp only [Template.contents, List.map_cons] at hmem ⊢
          exact List.mem_cons_of_mem _ hmem) }
      have hclosing : m.closing.getLast? ≠ some '\\' := by
        intro hend
        exact hc.plain (List.mem_of_getLast? hend)
      rw [writeTokens, scanFrom_escape_token ho hprevious hlead (readContent_escape hc hcontent),
        ih hclosing hrest]
      simp [Template.prependToken, Template.prepend]

/-- Scanning gives back the literals and contents that were written. -/
theorem scan_write (ho : Escapable m.opening) (hc : Escapable m.closing) {t : Template}
    (ht : t.Writable) : m.scan (m.write t) = { t with intact := true } := by
  rw [scan, dif_pos ⟨ho.ne_nil, hc.ne_nil⟩, write, String.toList_ofList]
  exact scanFrom_write ho hc (by simp) ht

/-- Filling a written template asks for its contents in order, each as it was
before it was written, and weaves the replies into its literals. A reply is
never scanned again: a run that succeeds has made one call for every content,
and one that fails has made the calls up to the one that failed. -/
theorem replace_write (ho : Escapable m.opening) (hc : Escapable m.closing) {t : Template}
    (ht : t.Writable) {σ : Type} (handler : TokenHandler σ) :
    (m.replace (m.write t) handler = do
        let replies ← t.references.mapM handler
        return t.woven replies) ∧
      (∀ s replies s', (t.references.mapM handler).run s = (.ok replies, s') →
        (m.replace (m.write t) handler.watched).run ([], s) =
          (.ok (t.woven replies), (t.references, s'))) ∧
      (∀ s before content after replies s₁ fault s₂,
        t.references = before ++ content :: after →
        (before.mapM handler).run s = (.ok replies, s₁) →
        (handler content).run s₁ = (.error fault, s₂) →
        (m.replace (m.write t) handler.watched).run ([], s) =
          (.error fault, (before ++ [content], s₂))) := by
  have hscan := scan_write ho hc ht
  have hintact : (m.scan (m.write t)).intact = true := by rw [hscan]
  have hreplace {τ : Type} (h : TokenHandler τ) : m.replace (m.write t) h = do
      let replies ← t.references.mapM h
      return t.woven replies := by
    rw [replace_of_intact hintact, hscan]
    rfl
  refine ⟨hreplace handler, ?_, ?_⟩
  · intro s replies s' hrun
    rw [hreplace, run_bind_of_ok (run_mapM_watched hrun), run_pure, List.nil_append]
  · intro s before content after replies s₁ fault s₂ hsplit hbefore hfault
    rw [hreplace, hsplit, run_bind_of_error (run_mapM_watched_of_error hbefore hfault),
      List.nil_append]

/-- A literal that ends in an open marker, a content that ends in a close
marker, no literal between two tokens and a backslash at the very end. -/
theorem replace_write_markers_at_ends :
    let t : Template := {
      lead := "a #\x7b".toList
      tokens := [("x\x7d".toList, []), ([], ['\\'])]
      intact := true }
    let quote : TokenHandler Unit := fun content => return "[" ++ content ++ "]"
    Markers.default.write t = "a \\#\x7b#\x7bx\\\x7d\x7d#\x7b\x7d\\" ∧
      (Markers.default.replace (Markers.default.write t) quote.watched).run ([], ()) =
        (.ok "a #\x7b[x\x7d][]\\", (["x\x7d", ""], ())) := by
  intro t quote
  have hwritable : t.Writable := ⟨by decide, by decide⟩
  obtain ⟨-, hok, -⟩ :=
    replace_write escapable_default_opening escapable_default_closing hwritable quote
  exact ⟨by decide +kernel, hok () ["[x\x7d]", "[]"] () rfl⟩

end Written

end Markers

end SqlMapper
