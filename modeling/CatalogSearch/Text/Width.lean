import CatalogSearch.Text.Neighbour

/-!
The number of columns that a line of text takes on a screen: those of its characters, less what
they save where they join into one sign, with selectors that give a pictograph or a quotation mark
another form. Main statement: the width of plain Latin text is its length.
-/

namespace CatalogSearch.Text

/-- A selector that the next character on the left may obey. -/
inductive Selector where
  | none
  | colour
  | plain
  | wide
  deriving DecidableEq, Repr

/-- All that a character is told of its right side. -/
structure Context where
  neighbour : Neighbour
  selector : Selector
  deriving DecidableEq, Repr

namespace Context

def start : Context := ⟨.nothing, .none⟩

/-- The context after a selector: letters stay in view, and so do pictographs behind a joiner if the
selector asks for colour. -/
def select (s : Selector) (k : Context) : Context :=
  if k.neighbour.isLetter || s = .colour && k.neighbour.isJoinedEmoji then ⟨k.neighbour, s⟩
  else ⟨.nothing, s⟩

/-- The context for a character that does not obey the selector: only letters are left of it. -/
def ignoreSelector (k : Context) : Context :=
  if k.selector = .none || k.neighbour.isLetter then ⟨k.neighbour, .none⟩ else start

/-- The columns of a character that obeys the selector, and the context on its left. -/
def obey? (k : Context) (c : Char) : Option (Int × Context) :=
  match k.selector with
  | .colour =>
    if isSelectable c then some (if k.neighbour.isJoinedEmoji then 0 else 2, ⟨.emoji, .none⟩)
    else none
  | .plain => if isPlainable c then some (1, start) else none
  | .wide => if isQuotation c then some (2, start) else none
  | .none => none

/-- The columns of a character that is no selector, and the context on its left. -/
def measurePlain (c : Char) (n : Neighbour) : Int × Context :=
  if n.isLetter && n ≠ .alef && c = '\u200D' then (0, ⟨n.join, .none⟩)
  else if n.isLetter && n ≠ .alef && isTransparent c then (0, ⟨n, .none⟩)
  else match n.joinWith? c with
    | some (columns, left) => (columns, ⟨left, .none⟩)
    | none => (charWidth c, ⟨.ofChar c, .none⟩)

/-- The columns that a character adds to what stands on its right, and the context on its left. -/
def measure (k : Context) (c : Char) : Int × Context :=
  match k.obey? c with
  | some result => result
  | none =>
    if c.toNat ≤ 0xA0 then (1, start)
    else if c = '\uFE0F' then (0, k.ignoreSelector.select .colour)
    else if c = '\uFE0E' then (0, k.ignoreSelector.select .plain)
    else if c = '\uFE01' then (0, k.ignoreSelector.select .wide)
    else measurePlain c k.ignoreSelector.neighbour

/-- The columns of a text and its context with a character put in front. -/
def extend (c : Char) (measured : Int × Context) : Int × Context :=
  let (columns, left) := measured.2.measure c
  (measured.1 + columns, left)

end Context

/-- The number of columns that a line of text takes. -/
def width (cs : List Char) : Nat := (cs.foldr Context.extend (0, Context.start)).1.toNat

theorem foldr_extend_start {cs : List Char} (h : ∀ c ∈ cs, c.toNat ≤ 0xA0) :
    cs.foldr Context.extend (0, Context.start) = ((cs.length : Int), Context.start) := by
  induction cs with
  | nil => rfl
  | cons c cs ih =>
    rw [List.foldr_cons, ih fun d hd => h d (List.mem_cons_of_mem c hd)]
    simp [Context.extend, Context.measure, Context.obey?, Context.start, h c List.mem_cons_self]

/-- A line without characters beyond the first Latin ones takes a column for each character. -/
theorem width_eq_length {cs : List Char} (h : ∀ c ∈ cs, c.toNat ≤ 0xA0) : width cs = cs.length := by
  rw [width, foldr_extend_start h, Int.toNat_natCast]

end CatalogSearch.Text
