/-
**Lists inside a structure.**

Three fields of the specification hold a counted list of items. This module names the three kinds;
how each is read and written is said in `Dmi.Layout.Items`.
-/

namespace Dmi

/-- The kinds of counted lists. -/
inductive ListKind where
  /-- Handles of other structures. -/
  | handles
  /-- What a chassis contains. -/
  | elements
  /-- The bus functions that share a slot. -/
  | peers
  deriving DecidableEq, Repr

namespace ListKind

/-- The field's name in messages. -/
def name : ListKind → String
  | handles => "ObjectHandles"
  | elements => "ContainedElements"
  | peers => "PeerGroups"

/-- The list as messages speak of it. -/
def plural : ListKind → String
  | handles => "object handles"
  | elements => "contained elements"
  | peers => "peer groups"

/-- The items as messages count them. -/
def items : ListKind → String
  | handles => "handles"
  | elements => "elements"
  | peers => "peer groups"

/-- What messages say of a value that is no item of the list. -/
def malformedItem : ListKind → String
  | handles => "object handle must be u16"
  | elements => "malformed contained element"
  | peers => "malformed peer group"

end ListKind

end Dmi
