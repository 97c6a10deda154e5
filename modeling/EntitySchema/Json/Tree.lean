import EntitySchema.Json.Token

/-!
# Reading JSON

A text is read into a tree that keeps what values do not: the order of members, repeated keys, and
the place where a text stops being JSON. So a reader that expects a certain shape meets a wrong
shape and a broken text in the order in which they stand. `Tree.toJson?` gives the value of a tree
that is whole.
-/

set_option autoImplicit false

namespace EntitySchema.Json

-- JSON text as read. An unclosed container ends where the text breaks; `beyond` marks a container
-- nested deeper than a value may be.
inductive Tree where
  | null
  | bool (b : Bool)
  | number (n : Option JsonNumber)
  | string (s : Option String)
  | array (items : List Tree) (closed : Bool)
  | object (members : List (Option String × Tree)) (closed : Bool)
  | beyond (container : Tree)
  | fault

instance : Inhabited Tree := ⟨.fault⟩

def maxDepth : Nat := 127

namespace Tree

inductive Frame where
  | array (items : List Tree)
  | object (members : List (Option String × Tree)) (key : Option String)

inductive Phase where
  | value
  | firstItem
  | firstKey
  | key
  | colon
  | next

def nested (depth : Nat) (container : Tree) : Tree :=
  if maxDepth < depth then .beyond container else container

def Frame.close (closed : Bool) : Frame → Tree
  | .array items => .array items.reverse closed
  | .object members _ => .object members.reverse closed

def Frame.push (value : Tree) : Frame → Frame
  | .array items => .array (value :: items)
  | .object members key => .object ((key, value) :: members) key

def broken (value : Tree) : List Frame → Tree
  | [] => value
  | frame :: outer => broken (nested (outer.length + 1) ((frame.push value).close false)) outer

def brokenBetween : List Frame → Tree
  | [] => .fault
  | frame :: outer => broken (nested (outer.length + 1) (frame.close false)) outer

def brokenAt (phase : Phase) (frames : List Frame) : Tree :=
  match phase with
  | .value | .colon => broken .fault frames
  | .firstItem | .firstKey | .key | .next => brokenBetween frames

def build : List Token → List Frame → Phase → Tree × Bool
  | [], frames, phase => (brokenAt phase frames, false)
  | token :: rest, frames, phase =>
    let leaf (value : Tree) : Tree × Bool :=
      match phase with
      | .value | .firstItem =>
        match frames with
        | [] => (value, rest.isEmpty)
        | frame :: outer => build rest (frame.push value :: outer) .next
      | _ => (brokenAt phase frames, false)
    let closeFrame : Tree × Bool :=
      match frames with
      | [] => (.fault, false)
      | frame :: outer =>
        let value := nested frames.length (frame.close true)
        match outer with
        | [] => (value, rest.isEmpty)
        | around :: outer => build rest (around.push value :: outer) .next
    match token, phase, frames with
    | .openArray, .value, _ | .openArray, .firstItem, _ => build rest (.array [] :: frames) .firstItem
    | .openObject, .value, _ | .openObject, .firstItem, _ =>
      build rest (.object [] none :: frames) .firstKey
    | .closeArray, .firstItem, _ => closeFrame
    | .closeArray, .next, .array _ :: _ => closeFrame
    | .closeObject, .firstKey, _ => closeFrame
    | .closeObject, .next, .object _ _ :: _ => closeFrame
    | .comma, .next, .array _ :: _ => build rest frames .value
    | .comma, .next, .object _ _ :: _ => build rest frames .key
    | .colon, .colon, _ => build rest frames .value
    | .string key, .firstKey, .object members _ :: outer
    | .string key, .key, .object members _ :: outer =>
      build rest (.object members key :: outer) .colon
    | .null, _, _ => leaf .null
    | .bool b, _, _ => leaf (.bool b)
    | .number n, _, _ => leaf (.number n)
    | .string s, _, _ => leaf (.string s)
    | _, _, _ => (brokenAt phase frames, false)

mutual
def isBroken : Tree → Bool
  | .array items closed => !closed || anyBroken items
  | .object members closed => !closed || memberBroken members
  | .beyond container => isBroken container
  | .fault => true
  | _ => false

def anyBroken : List Tree → Bool
  | [] => false
  | item :: rest => isBroken item || anyBroken rest

def memberBroken : List (Option String × Tree) → Bool
  | [] => false
  | (_, value) :: rest => isBroken value || memberBroken rest
end

mutual
def toJson? : Tree → Option Json
  | .null => some .null
  | .bool b => some (.bool b)
  | .number n => n.map .number
  | .string s => s.map .string
  | .array items true => (itemValues? items).map .array
  | .object members true => (memberValues? members).map fun entries => .object (Members.ofList entries)
  | .array _ false | .object _ false | .beyond _ | .fault => none

def itemValues? : List Tree → Option (List Json)
  | [] => some []
  | item :: rest => (toJson? item).bind fun value => (itemValues? rest).map (value :: ·)

def memberValues? : List (Option String × Tree) → Option (List (String × Json))
  | [] => some []
  | (key, value) :: rest =>
    key.bind fun key => (toJson? value).bind fun value =>
      (memberValues? rest).map ((key, value) :: ·)
end

mutual
def ofJson : Json → Tree
  | .null => .null
  | .bool b => .bool b
  | .number n => .number (some n)
  | .string s => .string (some s)
  | .array items => .array (ofItems items) true
  | .object members => .object (ofMembers members) true

def ofItems : List Json → List Tree
  | [] => []
  | item :: rest => ofJson item :: ofItems rest

def ofMembers : List (String × Json) → List (Option String × Tree)
  | [] => []
  | (key, value) :: rest => (some key, ofJson value) :: ofMembers rest
end

end Tree

def readTree (text : String) : Tree × Bool :=
  Tree.build (tokens text.toList) [] .value

def read? (text : String) : Option Json :=
  match readTree text with
  | (tree, true) => tree.toJson?
  | (_, false) => none

end EntitySchema.Json
