import FirewallPolicy.Address.IPv4

/-!
# IPv6 addresses and networks

Eight groups of up to four hexadecimal digits, where one run of zero groups may be left out as `::`
and the last two groups may be written as a dotted quad.  A scope may follow after a percent sign.
-/

namespace FirewallPolicy.Address

open FirewallPolicy.Text

/-- An IPv6 address with its scope, if any. -/
structure IPv6 where
  value : Nat
  scope : Option (List Char)
  deriving DecidableEq, Repr

/-- One group: one to four hexadecimal digits. -/
def group? (cs : List Char) : Option Nat :=
  if cs.isEmpty ∨ 4 < cs.length then none
  else (cs.mapM (digitBelow? 16)).map (ofDigits 16)

/-- The groups of an address, the last of them split in two where it is a dotted quad. -/
def groups? (cs : List Char) : Option (List (List Char)) :=
  let parts := fieldsOf ':' cs
  if parts.length < 3 then none
  else
    let tail := parts.getLastD []
    if tail.contains '.' then
      (dottedQuad? tail).map fun n =>
        parts.dropLast ++ [hexDigits 4 (n / 0x10000), hexDigits 4 (n % 0x10000)]
    else some parts

/-- The positions of empty groups, the two ends left aside. -/
def gaps (parts : List (List Char)) : List Nat :=
  (List.range parts.length).filter fun i =>
    decide (0 < i) && decide (i + 1 < parts.length) && (parts.getD i []).isEmpty

/-- The groups before and after the gap, in which an end may be empty only beside the gap. -/
def sides? (parts : List (List Char)) (gap : Nat) : Option (List (List Char) × List (List Char)) :=
  let before := parts.take gap
  let after := parts.drop (gap + 1)
  let before' := if before.head? = some [] then before.drop 1 else before
  let after' := if after.getLast? = some [] then after.dropLast else after
  if before.head? = some [] ∧ !before'.isEmpty then none
  else if after.getLast? = some [] ∧ !after'.isEmpty then none
  else if 8 ≤ before'.length + after'.length then none
  else some (before', after')

/-- The number of eight groups. -/
def ofGroups (groups : List Nat) : Nat := ofDigits 0x10000 groups

/-- The number of an address without scope. -/
def sixteenBytes? (cs : List Char) : Option Nat := do
  let parts ← groups? cs
  if 9 < parts.length then none
  match gaps parts with
  | [] =>
    if parts.length = 8 then (parts.mapM group?).map ofGroups else none
  | [gap] =>
    let (before, after) ← sides? parts gap
    let high ← before.mapM group?
    let low ← after.mapM group?
    return ofGroups (high ++ List.replicate (8 - (high.length + low.length)) 0 ++ low)
  | _ => none

/-- Reads an address; its scope, if there is one, is neither empty nor holds a percent sign. -/
def IPv6.ofChars? (cs : List Char) : Option IPv6 :=
  match cutAt? '%' cs with
  | none => (sixteenBytes? cs).map (⟨·, none⟩)
  | some (body, scope) =>
    if scope.isEmpty ∨ scope.contains '%' then none
    else (sixteenBytes? body).map (⟨·, some scope⟩)

/-- Whether a text is an IPv6 address with an optional length behind a slash. -/
def isIPv6Network (cs : List Char) : Bool :=
  match fieldsOf '/' cs with
  | [a] => (IPv6.ofChars? a).isSome
  | [a, s] => (IPv6.ofChars? a).isSome && (length? 128 s).isSome
  | _ => false

/-- Whether a text is an address of either family. -/
def isAddress (s : String) : Bool :=
  !s.toList.contains '/' && ((IPv4.ofChars? s.toList).isSome || (IPv6.ofChars? s.toList).isSome)

/-- Whether a text is a network of either family. -/
def isNetwork (s : String) : Bool :=
  (Network.ofChars? s.toList).isSome || isIPv6Network s.toList

end FirewallPolicy.Address
