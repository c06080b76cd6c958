/-!
Text for a place that is no terminal: control characters and the sequences by which terminals are
steered are left out, white space stays. Main statements: what is left holds no control characters
but white space, and text without control characters is left as it is.
-/

namespace CatalogSearch.Text

/-- White space among the control characters of ASCII that is printed. -/
def isSpacing (c : Char) : Bool := c = '\t' || c = '\n' || c = '\x0c' || c = '\r'

/-- Whether a character is printed outside of sequences. -/
def isPlain (c : Char) : Bool := isSpacing c || (0x20 ≤ c.toNat && c.toNat ≠ 0x7F)

/-- Whether the last byte of a control string, `0x9C`, is among the bytes after the first one of a
character in UTF-8. -/
def holdsTerminator (c : Char) : Bool :=
  0x80 ≤ c.toNat && (c.toNat % 64 = 0x1C || (0x800 ≤ c.toNat && c.toNat / 64 % 64 = 0x1C) ||
    (0x10000 ≤ c.toNat && c.toNat / 4096 % 64 = 0x1C))

/-- The part of a sequence that a place in a text lies in. -/
inductive SequencePart where
  /-- No sequence is open. -/
  | outside
  /-- After the escape character. -/
  | escape
  /-- After the first characters of a short sequence. -/
  | short
  /-- In the parameters of a control sequence. -/
  | parameters
  /-- In a command to the operating system. -/
  | command
  /-- At the start of a control string for a device. -/
  | device
  /-- In the parameters of a control string for a device. -/
  | deviceParameters
  /-- After the parameters of a control string for a device. -/
  | deviceFinal
  /-- In a control string. -/
  | string
  deriving DecidableEq, Repr

namespace SequencePart

/-- Whether a character is printed where it stands. Some sequences let white space through. -/
def prints : SequencePart → Char → Bool
  | outside, c => isPlain c
  | escape, c | short, c | parameters, c => isSpacing c
  | command, _ | device, _ | deviceParameters, _ | deviceFinal, _ | string, _ => false

/-- The part of a sequence after a character that follows the escape character. -/
def afterEscape (c : Char) : SequencePart :=
  if c = '[' then parameters
  else if c = ']' then command
  else if c = 'P' then device
  else if c = 'X' ∨ c = '^' ∨ c = '_' then string
  else if ' ' ≤ c ∧ c ≤ '/' then short
  else if '0' ≤ c ∧ c ≤ '~' then outside
  else escape

/-- The part of a sequence after a character in the head of a control string for a device, which is
in the part `p`; a parameter that stands in the wrong place ends the head too. -/
def afterDevice (p : SequencePart) (c : Char) : SequencePart :=
  if '@' ≤ c ∧ c ≤ '~' then string
  else if ' ' ≤ c ∧ c ≤ '/' then deviceFinal
  else if '0' ≤ c ∧ c ≤ '?' then
    if p = device ∨ (p = deviceParameters ∧ c ≤ ';') then deviceParameters else string
  else p

/-- The part of a sequence after a character that is not printed. -/
def next (p : SequencePart) (c : Char) : SequencePart :=
  if c = '\x1b' then escape
  else if c = '\x18' ∨ c = '\x1a' then outside
  else match p with
    | outside => outside
    | escape => afterEscape c
    | short => if '0' ≤ c ∧ c ≤ '~' then outside else short
    | parameters => if '@' ≤ c ∧ c ≤ '~' then outside else parameters
    | command => if c = '\x07' then outside else command
    | device | deviceParameters | deviceFinal => afterDevice p c
    | string => if holdsTerminator c then outside else string

end SequencePart

/-- What is printed of a text. After a printed character, plain characters are printed even if white
space was let through by a sequence that is open; the sequence goes on after the next control
character, unless a character beyond ASCII has ended it. -/
def printedFrom : SequencePart → Bool → List Char → List Char
  | _, _, [] => []
  | p, printing, c :: cs =>
    if (printing && isPlain c) || p.prints c then
      c :: printedFrom (if 0x80 ≤ c.toNat then .outside else p) true cs
    else printedFrom (p.next c) false cs

/-- A text without control characters and sequences. -/
def withoutControls (s : String) : String := String.ofList (printedFrom .outside false s.toList)

theorem SequencePart.isPlain_of_prints {p : SequencePart} {c : Char} (h : p.prints c = true) :
    isPlain c = true := by
  cases p <;> simp_all [prints, isPlain]

/-- What is printed of a text holds plain characters only. -/
theorem isPlain_of_mem_printedFrom {p : SequencePart} {printing : Bool} {cs : List Char} {c : Char}
    (h : c ∈ printedFrom p printing cs) : isPlain c = true := by
  induction cs generalizing p printing with
  | nil => simp [printedFrom] at h
  | cons d cs ih =>
    rw [printedFrom] at h
    split at h
    · rename_i hd
      rcases List.mem_cons.1 h with rfl | h
      · rcases Bool.or_eq_true_iff.1 hd with hd | hd
        · exact (Bool.and_eq_true_iff.1 hd).2
        · exact SequencePart.isPlain_of_prints hd
      · exact ih h
    · exact ih h

/-- Text of plain characters is printed as it is. -/
theorem printedFrom_of_isPlain {printing : Bool} {cs : List Char} (h : ∀ c ∈ cs, isPlain c = true) :
    printedFrom .outside printing cs = cs := by
  induction cs generalizing printing with
  | nil => rfl
  | cons c cs ih =>
    rw [printedFrom, if_pos (by simp [SequencePart.prints, h c List.mem_cons_self]), ite_self,
      ih fun d hd => h d (List.mem_cons_of_mem c hd)]

end CatalogSearch.Text
