import AddressTrace.Text.Split

/-!
# Types of an interface

The types that parameters of a contract's functions have, their names as read from an interface,
and the canonical names that signatures are made of.

## Main definitions

* `Kind` — a type;
* `Kind.ofName?` — the type that a name stands for;
* `Kind.name` — the canonical name of a type.
-/

namespace AddressTrace.Abi

open Text

/-- **A type.**  Sizes are not checked: `uint` of 7 bits and 33 `bytes` are types like others. -/
inductive Kind
  | address
  | bytes
  | int (bits : Nat)
  | uint (bits : Nat)
  | bool
  | string
  | array (item : Kind)
  | fixedBytes (size : Nat)
  | fixedArray (item : Kind) (size : Nat)
  | tuple (items : List Kind)
deriving Repr

instance : Inhabited Kind := ⟨.uint 8⟩

namespace Kind

/-- Is this the type of addresses? -/
def isAddress : Kind → Bool
  | address => true
  | _ => false

mutual

/-- **Does the encoding of a value depend on the value in length?** -/
def isDynamic : Kind → Bool
  | bytes | string | array _ => true
  | fixedArray item _ => item.isDynamic
  | tuple items => anyDynamic items
  | _ => false

/-- Is any of these types dynamic? -/
def anyDynamic : List Kind → Bool
  | [] => false
  | k :: ks => k.isDynamic || anyDynamic ks

end

/-! ### Canonical names -/

mutual

/-- The characters of a canonical name. -/
def render : Kind → List Char
  | address => "address".toList
  | bytes => "bytes".toList
  | int bits => "int".toList ++ (toString bits).toList
  | uint bits => "uint".toList ++ (toString bits).toList
  | bool => "bool".toList
  | string => "string".toList
  | array item => item.render ++ ['[', ']']
  | fixedBytes size => "bytes".toList ++ (toString size).toList
  | fixedArray item size => item.render ++ '[' :: ((toString size).toList ++ [']'])
  | tuple items => '(' :: (renderList items ++ [')'])

/-- Canonical names with commas between. -/
def renderList : List Kind → List Char
  | [] => []
  | [k] => k.render
  | k :: l :: ks => k.render ++ ',' :: renderList (l :: ks)

end

/-- **The canonical name of a type.** -/
def name (k : Kind) : String := String.ofList k.render

/-! ### Reading names -/

/-- A size: a decimal number of 64 bits, with or without a plus sign. -/
def size? (cs : List Char) : Option Nat :=
  let digits := match cs with
    | '+' :: rest => rest
    | _ => cs
  if digits.isEmpty || !digits.all Char.isDigit then none
  else
    let n := digits.foldl (fun n c => 10 * n + (c.toNat - '0'.toNat)) 0
    if n < Nat.pow 2 64 then some n else none

/-- The parts of a list between the commas that stand in no parentheses; `depth` is the number of
parentheses open. -/
def commaParts (depth : Nat) : List Char → List (List Char)
  | [] => [[]]
  | c :: cs =>
    if c = ',' ∧ depth = 0 then [] :: commaParts 0 cs
    else
      let depth := if c = '(' then depth + 1 else if c = ')' then depth - 1 else depth
      match commaParts depth cs with
      | [] => [[c]]
      | p :: ps => (c :: p) :: ps

/-- The type whose name is a single word.  A word that is no type is taken for an enumeration. -/
def ofWord? (cs : List Char) : Option Kind :=
  match String.ofList cs with
  | "address" => some address
  | "bytes" => some bytes
  | "bool" => some bool
  | "string" => some string
  | "int" => some (int 256)
  | "tuple" => some (tuple [])
  | "uint" => some (uint 256)
  | _ =>
    if "int".toList.isPrefixOf cs then (size? (cs.drop 3)).map int
    else if "uint".toList.isPrefixOf cs then (size? (cs.drop 4)).map uint
    else if "bytes".toList.isPrefixOf cs then (size? (cs.drop 5)).map fixedBytes
    else some (uint 8)

/-- The type of a name that is at most so long.  A name ending in a parenthesis lists the types of
a tuple; one ending in a bracket is that of an array, its size between the last brackets. -/
def ofChars? : Nat → List Char → Option Kind
  | 0, cs => ofWord? cs
  | fuel + 1, cs =>
    match cs.getLast? with
    | some ')' =>
      match cs with
      | '(' :: inner =>
        let parts := (commaParts 0 inner.dropLast).filter fun p => !p.isEmpty
        (parts.mapM (ofChars? fuel)).map tuple
      | _ => none
    | some ']' => do
      let (item, size) ← splitLast? '[' cs.dropLast
      if size.isEmpty then return array (← ofChars? fuel item)
      else
        let size ← size? size
        return fixedArray (← ofChars? fuel item) size
    | _ => ofWord? cs

/-- **The type that a name stands for**, if it is a name. -/
def ofName? (name : String) : Option Kind := ofChars? name.length name.toList

/-! ### Tuples inside arrays -/

/-- Is the innermost type of an array, or the type itself, a tuple? -/
def endsInTuple : Kind → Bool
  | array item => item.endsInTuple
  | fixedArray item _ => item.endsInTuple
  | tuple _ => true
  | _ => false

/-- The type with more items in its innermost tuple. -/
def extend (more : List Kind) : Kind → Kind
  | array item => array (item.extend more)
  | fixedArray item size => fixedArray (item.extend more) size
  | tuple items => tuple (items ++ more)
  | k => k

end Kind

end AddressTrace.Abi
