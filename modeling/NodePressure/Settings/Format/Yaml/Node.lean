import NodePressure.Settings.Format.Yaml.Token

/-!
# NodePressure.Settings.Format.Yaml.Node - values of a YAML text

The tokens are taken together to lists, maps and scalars. A key is an integer or a text and may
stand only once in its map; a key or value that is left out is nothing.
-/

namespace NodePressure.Settings.Yaml

/-- The key of a map. -/
inductive Key
  | int (n : Int)
  | text (s : String)
  deriving DecidableEq, Repr

/-- The text of a key. -/
def Key.name : Key → String
  | .int n => Number.signedText n
  | .text s => s

/-- The key that a value makes. Only integers and texts are keys. -/
def Key.of? : Tree → Option Key
  | .leaf _ (.int n) => some (.int n)
  | .leaf _ (.text s) => some (.text s)
  | _ => none

/-- A map behind its last member: a key may stand only once. -/
def addMember (k : Key) (t : Tree) (done : List (Key × Tree)) : Option (List (Key × Tree)) :=
  if done.any (·.1 == k) then none else some (done ++ [(k, t)])

/-- The table of members; of members with one name the last one counts. -/
def tableOf (members : List (Key × Tree)) : Tree :=
  members.foldl (fun t (k, v) => t.put k.name v) Tree.empty

/-- Nothing. -/
def nothing : Tree := .leaf none .nil

/-- Whether the value behind a mark in a block map is left out. -/
def endsMember : List Token → Bool
  | .key :: _ | .value :: _ | .blockEnd :: _ => true
  | _ => false

/-- Whether the value of a member in braces is left out. -/
def endsFlowMember : List Token → Bool
  | .comma :: _ | .flowMapEnd :: _ => true
  | _ => false

/-- Whether the item of a list that is not indented is left out. -/
def endsItem : List Token → Bool
  | .item :: _ | .key :: _ | .value :: _ | .blockEnd :: _ => true
  | _ => false

mutual

/-- A value, and the tokens behind it. Lists and maps without brackets, and lists that are not
indented, may begin only where they are admitted. -/
def readNode : Nat → Bool → Bool → List Token → Option (Tree × List Token)
  | 0, _, _, _ => none
  | fuel + 1, block, bare, tokens =>
    match tokens with
    | .scalar true s :: r => (meaning? s.toList).map fun v => (.leaf none v, r)
    | .scalar false s :: r => some (.leaf none (.text s), r)
    | .flowListStart :: r => readFlowItems fuel true r []
    | .flowMapStart :: r => readFlowMembers fuel true r []
    | .item :: _ => if bare then readBareItems fuel tokens [] else none
    | .listStart :: r => if block then readItems fuel r [] else none
    | .mapStart :: r => if block then readMembers fuel r [] else none
    | _ => none

/-- The items of a block list up to its end. -/
def readItems : Nat → List Token → List Tree → Option (Tree × List Token)
  | 0, _, _ => none
  | fuel + 1, tokens, done =>
    match tokens with
    | .blockEnd :: r => some (.list none done, r)
    | .item :: .item :: r => readItems fuel (.item :: r) (done ++ [nothing])
    | .item :: .blockEnd :: r => readItems fuel (.blockEnd :: r) (done ++ [nothing])
    | .item :: r => do
      let (t, r) ← readNode fuel true false r
      readItems fuel r (done ++ [t])
    | _ => none

/-- The items of a block list that is not indented. -/
def readBareItems : Nat → List Token → List Tree → Option (Tree × List Token)
  | 0, _, _ => none
  | fuel + 1, tokens, done =>
    match tokens with
    | .item :: r =>
      if endsItem r then readBareItems fuel r (done ++ [nothing])
      else do
        let (t, r) ← readNode fuel true false r
        readBareItems fuel r (done ++ [t])
    | r => some (.list none done, r)

/-- The members of a block map up to its end. -/
def readMembers : Nat → List Token → List (Key × Tree) → Option (Tree × List Token)
  | 0, _, _ => none
  | fuel + 1, tokens, done =>
    match tokens with
    | .blockEnd :: r => some (tableOf done, r)
    | .key :: r => do
      let (t, r) ← readNode fuel true true r
      let k ← Key.of? t
      match r with
      | .value :: r =>
        if endsMember r then readMembers fuel r (← addMember k nothing done)
        else
          let (t, r) ← readNode fuel true true r
          readMembers fuel r (← addMember k t done)
      | r => readMembers fuel r (← addMember k nothing done)
    | _ => none

/-- The items of a list in brackets. A comma stands between them and may stand behind the last. -/
def readFlowItems : Nat → Bool → List Token → List Tree → Option (Tree × List Token)
  | 0, _, _, _ => none
  | fuel + 1, first, tokens, done =>
    match tokens with
    | .flowListEnd :: r => some (.list none done, r)
    | tokens => do
      let tokens ← match first, tokens with
        | true, r => some r
        | false, .comma :: r => some r
        | false, _ => none
      match tokens with
      | .flowListEnd :: r => some (.list none done, r)
      | .key :: r =>
        let (t, r) ← readPair fuel r
        readFlowItems fuel false r (done ++ [t])
      | r =>
        let (t, r) ← readNode fuel false false r
        readFlowItems fuel false r (done ++ [t])

/-- A map of one pair in a list, behind the mark of its key. -/
def readPair : Nat → List Token → Option (Tree × List Token)
  | 0, _ => none
  | fuel + 1, tokens => do
    let (t, r) ← readNode fuel false false tokens
    let k ← Key.of? t
    match r with
    | .value :: .comma :: r => return (tableOf [(k, nothing)], .comma :: r)
    | .value :: .flowListEnd :: r => return (tableOf [(k, nothing)], .flowListEnd :: r)
    | .value :: r =>
      let (v, r) ← readNode fuel false false r
      return (tableOf [(k, v)], r)
    | r => return (tableOf [(k, nothing)], r)

/-- The members of a map in braces. A comma stands between them and may stand behind the last. -/
def readFlowMembers : Nat → Bool → List Token → List (Key × Tree) → Option (Tree × List Token)
  | 0, _, _, _ => none
  | fuel + 1, first, tokens, done =>
    match tokens with
    | .flowMapEnd :: r => some (tableOf done, r)
    | tokens => do
      let tokens ← match first, tokens with
        | true, r => some r
        | false, .comma :: r => some r
        | false, _ => none
      match tokens with
      | .flowMapEnd :: r => some (tableOf done, r)
      | .key :: r =>
        let (t, r) ← readNode fuel false false r
        let k ← Key.of? t
        match r with
        | .value :: r =>
          if endsFlowMember r then readFlowMembers fuel false r (← addMember k nothing done)
          else
            let (v, r) ← readNode fuel false false r
            readFlowMembers fuel false r (← addMember k v done)
        | r => readFlowMembers fuel false r (← addMember k nothing done)
      | r =>
        let (t, r) ← readNode fuel false false r
        readFlowMembers fuel false r (← addMember (← Key.of? t) nothing done)

end

/-- The value of the only document; no document at all is an empty map. -/
def document? (tokens : List Token) : Option Tree :=
  let fuel := 2 * tokens.length + 2
  let isEnd (t : Token) : Bool := t == .documentEnd
  let value : Option (Tree × List Token) :=
    match tokens.dropWhile isEnd with
    | [] => some (Tree.empty, [])
    | .documentStart :: r =>
      match r with
      | [] => some (nothing, [])
      | .documentStart :: _ => none
      | .documentEnd :: r => some (nothing, r)
      | r => readNode fuel true false r
    | r => readNode fuel true false r
  value.bind fun (t, r) => if (r.dropWhile isEnd).isEmpty then some t else none

end NodePressure.Settings.Yaml
