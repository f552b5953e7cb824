/-!
# Controls: what a terminal acts on instead of showing

A text for a terminal may hold control characters and control sequences,
which start with the escape character and set a colour, a title and the
like. Where no terminal reads the text they are left out. The blank controls
(tab, line feed, form feed, carriage return) show.

A reader of such a text is always in one of a few modes; the mode tells
whether the next character shows and in which mode the reader goes on. A
blank control inside an unfinished sequence shows, and so does the text
behind it, up to the next control that does not show; there the sequence
goes on. Only a character outside ASCII in that text ends the sequence.

## Main definitions

* `Controls.Mode` — the modes.
* `Controls.Mode.next` — whether a character shows in a mode.
* `Controls.strip` — the text without its controls.

## Main results

* `Controls.stripFrom_append` — characters that show are kept, whatever
  follows them.
* `Controls.escape_not_mem` — no escape character is left.
-/

namespace SqlMapper.Text.Controls

/-! ## Modes -/

/-- What the characters read so far have started. -/
inductive Mode where
  /-- Nothing: text that shows. -/
  | text
  /-- The escape character. -/
  | escape
  /-- An escape with intermediate characters. -/
  | intermediate
  /-- A sequence with parameters, such as a colour. -/
  | parameters
  /-- A command of the operating system, such as a title. -/
  | command
  /-- The header of a text for the device. -/
  | header
  /-- Such a header with parameters. -/
  | headerParameters
  /-- Such a header with intermediate characters. -/
  | headerIntermediate
  /-- A text for the device or for an application. -/
  | message
  deriving DecidableEq, Repr

/-- A control that shows. -/
def isBlank (c : Char) : Bool := c = '\t' || c = '\n' || c = '\x0c' || c = '\r'

/-- The mode after the escape character and a final character. -/
def Mode.afterEscape : Char → Mode
  | '[' => parameters
  | ']' => command
  | 'P' => header
  | 'X' | '^' | '_' => message
  | _ => text

/-- The mode after a hidden ASCII character that is no control. -/
def Mode.afterHidden (mode : Mode) (c : Char) : Mode :=
  match mode with
  | text => text
  | escape => if c < '0' then intermediate else afterEscape c
  | intermediate => if c < '0' then intermediate else text
  | parameters => if c < '@' then parameters else text
  | command => command
  | header =>
      if c < '0' then headerIntermediate else if c < '@' then headerParameters else message
  | headerParameters =>
      if c < '0' then headerIntermediate else if c < '<' then headerParameters else message
  | headerIntermediate => if c < '0' then headerIntermediate else message
  | message => message

/-- The byte that ends a message is one of those that encode the character. -/
def endsMessage (c : Char) : Bool := (String.utf8EncodeChar c).contains 0x9C

/-- The mode after a character that does not show; nothing where it shows. -/
def Mode.next (mode : Mode) (c : Char) : Option Mode :=
  if c = '\x1b' then some escape
  else if c = '\x18' || c = '\x1a' then some text
  else if c = '\x7f' then some mode
  else if c < ' ' then
    match mode with
    | text | escape | intermediate | parameters => if isBlank c then none else some mode
    | command => some (if c = '\x07' then text else command)
    | mode => some mode
  else if mode = text then none
  else if c < '\x7f' then some (mode.afterHidden c)
  else if mode = message && endsMessage c then some text
  else some mode

/-! ## Reading -/

/-- The character shows, read in the given mode. Where the character before
it showed, all shows that shows in `text`. -/
def shows (mode : Mode) (shown : Bool) (c : Char) : Bool :=
  (mode.next c).isNone || (shown && (Mode.text.next c).isNone)

/-- The mode after a character that shows. -/
def Mode.afterShown (mode : Mode) (c : Char) : Mode := if c ≤ '\x7f' then mode else text

/-- The characters that show, read in the given mode; `shown` says that the
character before them showed. -/
def stripFrom (mode : Mode) (shown : Bool) : List Char → List Char
  | [] => []
  | c :: cs =>
      if shows mode shown c then c :: stripFrom (mode.afterShown c) true cs
      else stripFrom ((mode.next c).getD mode) false cs

/-- The text without its controls. -/
def strip (s : String) : String := String.ofList (stripFrom .text false s.toList)

/-! ## What is left -/

/-- In `text` it does not matter what showed before. -/
theorem shows_text (shown : Bool) (c : Char) :
    shows .text shown c = (Mode.text.next c).isNone := by
  cases shown <;> simp [shows]

/-- A character that shows leaves a reader of text there. -/
theorem afterShown_text (c : Char) : Mode.text.afterShown c = .text := by
  simp [Mode.afterShown]

/-- Characters that show are kept, whatever follows them. -/
theorem stripFrom_append {cs : List Char} (h : ∀ c ∈ cs, Mode.text.next c = none)
    (shown : Bool) (ds : List Char) :
    stripFrom .text shown (cs ++ ds) =
      cs ++ stripFrom .text (shown || !cs.isEmpty) ds := by
  induction cs generalizing shown with
  | nil => simp
  | cons c cs ih =>
      have hc := h c List.mem_cons_self
      have hcs := ih fun d hd => h d (List.mem_cons_of_mem c hd)
      simp [stripFrom, shows_text, afterShown_text, hc, hcs]

/-- A character that shows is not the escape character. -/
theorem ne_escape_of_shows {mode : Mode} {shown : Bool} {c : Char}
    (h : shows mode shown c = true) : c ≠ '\x1b' := by
  intro hc
  simp [shows, Mode.next, hc] at h

/-- No escape character is left. -/
theorem escape_not_mem (mode : Mode) (shown : Bool) (cs : List Char) :
    '\x1b' ∉ stripFrom mode shown cs := by
  induction cs generalizing mode shown with
  | nil => simp [stripFrom]
  | cons c cs ih =>
      rw [stripFrom]
      split
      · next h =>
          have hc := ne_escape_of_shows h
          simpa [ih] using hc.symm
      · exact ih _ _

end SqlMapper.Text.Controls
