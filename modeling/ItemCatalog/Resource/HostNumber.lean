import ItemCatalog.Text.Ranges

/-! # Host numbers: hosts in brackets

A host in the brackets of an address is a number of eight groups, written with hexadecimal digits
and colons between the groups; one run of empty groups may be left out, and the last two groups may
be written as four decimal numbers. A host that starts with a small `v` is of a kind to come. -/

namespace ItemCatalog.Resource

/-- The parts of a list between the places where a character stands. -/
def splitAtChar (sep : Char) : List Char → List (List Char)
  | [] => [[]]
  | c :: cs =>
    match splitAtChar sep cs with
    | [] => [[c]]
    | part :: parts => if c = sep then [] :: part :: parts else (c :: part) :: parts

/-- Whether a character is a hexadecimal digit. -/
def isHexDigit (c : Char) : Bool :=
  c.isDigit || ('a' ≤ c && c ≤ 'f') || ('A' ≤ c && c ≤ 'F')

/-- Whether characters are a decimal number below 256 without leading zeros. -/
def isDecimalByte (cs : List Char) : Bool :=
  !cs.isEmpty && cs.all Char.isDigit && cs.length ≤ 3 &&
    (cs.length = 1 || cs.head? != some '0') &&
    cs.foldl (fun n c => 10 * n + (c.toNat - 48)) 0 < 256

/-- Whether characters are four decimal numbers with points between them. -/
def isFourNumber (cs : List Char) : Bool :=
  let parts := splitAtChar '.' cs
  parts.length = 4 && parts.all isDecimalByte

/-- Whether characters are one to four hexadecimal digits. -/
def isGroup (cs : List Char) : Bool :=
  !cs.isEmpty && cs.length ≤ 4 && cs.all isHexDigit

/-- The parts with four decimal numbers at their end taken as two groups. -/
def widenLast (parts : List (List Char)) : Option (List (List Char)) :=
  match parts.getLast? with
  | some last =>
    if last.contains '.' then
      if isFourNumber last then some (parts.dropLast ++ [['0'], ['0']]) else none
    else some parts
  | none => none

/-- Whether parts are groups around one run that is left out. -/
def areGroupsAround (parts : List (List Char)) (skip : Nat) : Bool :=
  let high := parts.take skip
  let low := parts.drop (skip + 1)
  let high :=
    if high.head? = some [] then (if high.length = 1 then some [] else none) else some high
  let low := if low.getLast? = some [] then (if low.length = 1 then some [] else none) else some low
  match high, low with
  | some high, some low => high.length + low.length < 8 && high.all isGroup && low.all isGroup
  | _, _ => false

/-- Whether characters are eight groups with colons between them. -/
def isEightNumber (cs : List Char) : Bool :=
  let parts := splitAtChar ':' cs
  if parts.length < 3 then false
  else match widenLast parts with
    | none => false
    | some parts =>
      if 9 < parts.length then false
      else
        let inner := (parts.drop 1).dropLast
        match inner.countP List.isEmpty with
        | 0 => parts.length = 8 && parts.all isGroup
        | 1 => areGroupsAround parts (inner.findIdx List.isEmpty + 1)
        | _ => false

/-- Whether characters are eight groups, with the name of a zone after a percent sign or without. -/
def isScopedNumber (cs : List Char) : Bool :=
  match splitAtChar '%' cs with
  | [address] => isEightNumber address
  | [address, zone] => !zone.isEmpty && isEightNumber address
  | _ => false

/-- Whether characters are a host of a kind to come: a version, a point and more. -/
def isFutureHost (cs : List Char) : Bool :=
  match cs with
  | 'v' :: rest =>
    let version := rest.takeWhile isHexDigit
    match rest.dropWhile isHexDigit with
    | '.' :: more => !version.isEmpty && !more.isEmpty && !more.contains '\n'
    | _ => false
  | _ => false

end ItemCatalog.Resource
