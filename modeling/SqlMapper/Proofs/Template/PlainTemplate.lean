import SqlMapper.Proofs.Template.Compilation
import SqlMapper.Proofs.Template.Escaping
import SqlMapper.Proofs.Template.PlainReference

/-!
# Templates of plain names

Where nothing has to be escaped, a template is written by putting every
content between the markers, and it compiles to the same text with a
placeholder in the place of every token. If the contents are plain names, a
parameter bag gives every placeholder the argument of the name that stood
there.

## Main definitions

* `Template.text` — a template as written without escapes.
* `Template.Verbatim` — nothing in it has to be escaped.

## Main results

* `Markers.scan_text` — such a text scans as it was written.
* `TypeSystem.compile_text` — what a template of plain names compiles to.
* `CompiledSql.bind_of_plain` — the values that it sends.
-/

namespace SqlMapper

/-! ## Writing without escapes -/

/-- A token: its content between the markers. -/
def Markers.token (m : Markers) (content : String) : String :=
  String.ofList m.opening ++ content ++ String.ofList m.closing

/-- The template as written without escapes. -/
def Template.text (t : Template) (m : Markers) : String := t.woven (t.references.map m.token)

/-- Nothing in the template has to be escaped, and nothing escapes. -/
structure Template.Verbatim (t : Template) (m : Markers) : Prop where
  literals : ∀ literal ∈ t.lead :: t.followers, ¬ m.opening <:+: literal ∧ '\\' ∉ literal
  contents : ∀ content ∈ t.contents, ¬ m.closing <:+: content ∧ '\\' ∉ content

namespace Markers

variable {m : Markers} {t : Template}

private theorem getLast?_ne_of_not_mem {c : Char} {cs : List Char} (h : c ∉ cs) :
    cs.getLast? ≠ some c := by
  intro hlast
  exact h (List.mem_of_getLast? hlast)

theorem writable_of_verbatim (h : t.Verbatim m) : t.Writable where
  literals literal hmem :=
    getLast?_ne_of_not_mem (h.literals literal (List.dropLast_subset _ hmem)).2
  contents content hmem := getLast?_ne_of_not_mem (h.contents content hmem).2

private theorem writeTokens_of_verbatim {tokens : List (List Char × List Char)}
    (hliterals : ∀ token ∈ tokens, ¬ m.opening <:+: token.2)
    (hcontents : ∀ token ∈ tokens, ¬ m.closing <:+: token.1) :
    String.ofList (m.writeTokens tokens) =
      weave (tokens.map fun token => m.token (String.ofList token.1))
        (tokens.map Prod.snd) := by
  induction tokens with
  | nil => rfl
  | cons token tokens ih =>
      have hrest := ih (fun token hmem => hliterals token (by simp [hmem]))
        (fun token hmem => hcontents token (by simp [hmem]))
      obtain ⟨content, literal⟩ := token
      have hliteral : escape m.opening literal = literal :=
        escape_of_not_isInfix (hliterals (content, literal) (by simp))
      have hcontent : escape m.closing content = content :=
        escape_of_not_isInfix (hcontents (content, literal) (by simp))
      simp only [writeTokens, hliteral, hcontent, String.ofList_append, hrest, List.map_cons,
        weave, token, String.append_assoc]

/-- A template without anything to escape is written as it stands. -/
theorem write_of_verbatim (h : t.Verbatim m) : m.write t = t.text m := by
  have hlead : escape m.opening t.lead = t.lead :=
    escape_of_not_isInfix (h.literals t.lead (by simp)).1
  have hliterals : ∀ token ∈ t.tokens, ¬ m.opening <:+: token.2 := by
    intro token hmem
    exact (h.literals token.2 (List.mem_cons_of_mem _ (List.mem_map_of_mem hmem))).1
  have hcontents : ∀ token ∈ t.tokens, ¬ m.closing <:+: token.1 := by
    intro token hmem
    exact (h.contents token.1 (List.mem_map_of_mem hmem)).1
  have htokens : t.references.map m.token =
      t.tokens.map fun token => m.token (String.ofList token.1) := by
    simp [Template.references, Template.contents]
  rw [write, String.ofList_append, hlead, writeTokens_of_verbatim hliterals hcontents,
    Template.text, Template.woven, htokens, Template.followers]

/-- A template without anything to escape scans as it was written. -/
theorem scan_text (ho : Escapable m.opening) (hc : Escapable m.closing) (h : t.Verbatim m) :
    m.scan (t.text m) = { t with intact := true } := by
  rw [← write_of_verbatim h]
  exact scan_write ho hc (writable_of_verbatim h)

end Markers

/-! ## Compiling plain names -/

section Plain

variable {t : Template}

/-- Where the literals need no escape and the contents are plain names, nothing
has to be escaped. -/
theorem Template.verbatim_of_plain
    (hliterals : ∀ literal ∈ t.lead :: t.followers,
      ¬ Markers.default.opening <:+: literal ∧ '\\' ∉ literal)
    (hnames : ∀ name ∈ t.references, IsPlainName name) : t.Verbatim .default where
  literals := hliterals
  contents content hmem := by
    have hplain : IsPlainName (String.ofList content) :=
      hnames _ (List.mem_map_of_mem hmem)
    have hclosing : '\x7d' ∉ content := by
      simpa using hplain.not_mem (c := '\x7d') (by decide)
    have hbackslash : '\\' ∉ content := by
      simpa using hplain.not_mem (c := '\\') (by decide)
    exact ⟨fun hwithin => hclosing (hwithin.subset (by simp [Markers.default])), hbackslash⟩

/-- A template of plain names compiles to its literals with placeholders
between them and one mapping for every name. -/
theorem TypeSystem.compile_text {types : TypeSystem} {settings : Settings}
    (hhandlers : types.handlers = .initial) (hmarkers : settings.markers = .default)
    (hshrink : settings.shrinkWhitespace = false)
    (hliterals : ∀ literal ∈ t.lead :: t.followers,
      ¬ Markers.default.opening <:+: literal ∧ '\\' ∉ literal)
    (hnames : ∀ name ∈ t.references, IsPlainName name) :
    types.compile settings (t.text .default) (some .params) =
      .ok {
        sql := t.woven (settings.placeholders t.references.length)
        mappings := t.references.map .ofArgument } := by
  have hscan : settings.markers.scan (t.text .default) = { t with intact := true } := by
    rw [hmarkers]
    exact Markers.scan_text Markers.escapable_default_opening Markers.escapable_default_closing
      (Template.verbatim_of_plain hliterals hnames)
  have hintact : (settings.markers.scan (t.text .default)).intact = true := by rw [hscan]
  have hmappings : (settings.markers.scan (t.text .default)).references.map
      (types.mappingOf · ((some ValueType.params).getD .any)) =
        (t.references.map ParameterMapping.ofArgument).map .ok := by
    rw [hscan, List.map_map]
    exact List.map_congr_left fun name hmem => mappingOf_of_plain hhandlers (hnames name hmem)
  have hlayout (sql : String) : settings.layout sql = sql := by
    rw [Settings.layout, hshrink, if_neg (by simp)]
  rw [compile_of_mappings hintact hmappings, hscan]
  show Except.ok (CompiledSql.mk (settings.layout _) _) = _
  rw [hlayout]
  rfl

/-- The placeholders of plain names send the arguments of those names. -/
theorem CompiledSql.bind_of_plain {types : TypeSystem} {bag : Bag} {names : List String}
    {values : List Value} {sql : String} (hnames : ∀ name ∈ names, IsPlainName name)
    (hscalars : ∀ value ∈ values, value.isScalar = true)
    (h : List.Forall₂ (fun name value => bag.find? name = some value) names values) :
    ({ sql, mappings := names.map .ofArgument } : CompiledSql).bind types (.params bag) =
      .ok values := by
  show (names.map ParameterMapping.ofArgument).mapM (boundValue types (.params bag)) = _
  induction h with
  | nil => rfl
  | @cons name value names values hfound _ ih =>
      have hvalue : boundValue types (.params bag) (.ofArgument name) = .ok value :=
        boundValue_of_plain (hnames name (by simp)) hfound (hscalars value (by simp))
      have hvalues := ih (fun name hmem => hnames name (by simp [hmem]))
        (fun value hmem => hscalars value (by simp [hmem]))
      rw [List.map_cons, List.mapM_cons, hvalue, hvalues]
      rfl

end Plain

end SqlMapper
