import EntitySchema.Proofs.Json.Layout
import EntitySchema.Proofs.Json.Reading

set_option autoImplicit false

namespace EntitySchema

open Json

-- What is read where a number has been written. Doubles may come back as other doubles.
def JsonNumber.reread (n : JsonNumber) : Option JsonNumber :=
  match firstToken n.text.toList with
  | (.number m, _) => m
  | _ => none

def Binary64.reread (x : Binary64) : Option Binary64 :=
  (JsonNumber.real x).reread.map JsonNumber.toBinary64

namespace Json

mutual
def through (f : JsonNumber → Option JsonNumber) : Json → Tree
  | .null => .null
  | .bool b => .bool b
  | .number n => .number (f n)
  | .string s => .string (some s)
  | .array items => .array (itemsThrough f items) true
  | .object members => .object (membersThrough f members) true

def itemsThrough (f : JsonNumber → Option JsonNumber) : List Json → List Tree
  | [] => []
  | item :: rest => through f item :: itemsThrough f rest

def membersThrough (f : JsonNumber → Option JsonNumber) :
    List (String × Json) → List (Option String × Tree)
  | [] => []
  | (key, value) :: rest => (some key, through f value) :: membersThrough f rest
end

mutual
def depth : Json → Nat
  | .array items => itemsDepth items + 1
  | .object members => membersDepth members + 1
  | _ => 0

def itemsDepth : List Json → Nat
  | [] => 0
  | item :: rest => max (depth item) (itemsDepth rest)

def membersDepth : List (String × Json) → Nat
  | [] => 0
  | (_, value) :: rest => max (depth value) (membersDepth rest)
end

theorem itemsDepth_le (items : List Json) (n : Nat) :
    itemsDepth items ≤ n ↔ ∀ item ∈ items, depth item ≤ n := by
  induction items with
  | nil => simp [itemsDepth]
  | cons item rest ih => simp [itemsDepth, ih]

theorem membersDepth_le (members : List (String × Json)) (n : Nat) :
    membersDepth members ≤ n ↔ ∀ member ∈ members, depth member.2 ≤ n := by
  induction members with
  | nil => simp [membersDepth]
  | cons member rest ih => simp [membersDepth, ih]

theorem itemsDepth_strings (names : List String) : itemsDepth (names.map .string) = 0 := by
  rw [← Nat.le_zero, itemsDepth_le]
  intro item member
  obtain ⟨name, _, rfl⟩ := List.mem_map.mp member
  exact Nat.le_refl 0

theorem itemsThrough_eq_map (f : JsonNumber → Option JsonNumber) (items : List Json) :
    itemsThrough f items = items.map (through f) := by
  induction items with
  | nil => rfl
  | cons item rest ih => rw [itemsThrough, ih, List.map_cons]

theorem membersThrough_eq_map (f : JsonNumber → Option JsonNumber) (members : List (String × Json)) :
    membersThrough f members = members.map fun (key, value) => (some key, through f value) := by
  induction members with
  | nil => rfl
  | cons member rest ih => rw [membersThrough, ih, List.map_cons]

theorem tokens_mark (c : Char) (token : Token) (rest : List Char) (visible : isSpace c = false)
    (first : firstToken (c :: rest) = (token, rest)) : tokens (c :: rest) = token :: tokens rest :=
  tokens_first c rest rest token visible first (Nat.le_refl _)

theorem tokens_word (c : Char) (word rest : List Char) (token : Token) (visible : isSpace c = false)
    (first : firstToken (c :: (word ++ rest)) = (token, rest)) :
    tokens (c :: (word ++ rest)) = token :: tokens rest :=
  tokens_first c _ rest token visible first (by simp)

theorem tokens_number (n : JsonNumber) (rest : List Char) (ends : Ends rest) :
    tokens (n.text.toList ++ rest) = .number n.reread :: tokens rest := by
  obtain ⟨m, valid, laid⟩ := Numeral.number_laid_out n
  have alone := m.firstToken_chars [] (by rintro c ⟨⟩) valid
  have first := m.firstToken_chars rest ends valid
  have value : n.reread = m.value? := by
    rw [List.append_nil] at alone
    rw [JsonNumber.reread, laid, alone]
  rw [laid, value]
  obtain ⟨c, digits, shape, visible⟩ := m.chars_visible valid
  rw [shape] at first ⊢
  refine tokens_first c (digits ++ rest) rest _ visible first ?_
  simp

theorem tokens_string (s : String) (rest : List Char) :
    tokens ((quoteString s).toList ++ rest) = .string (some s) :: tokens rest := by
  have first := firstToken_string s rest
  have front : (quoteString s).toList ++ rest =
      '"' :: (s.toList.flatMap escapeChar ++ '"' :: rest) := by
    simp [quoteString]
  rw [front] at first ⊢
  refine tokens_first '"' _ rest _ (by decide) first ?_
  simp only [List.length_append, List.length_cons]
  omega

theorem ends_mark (c : Char) (rest : List Char)
    (mark : c.isDigit = false ∧ c ≠ '.' ∧ c ≠ 'e' ∧ c ≠ 'E') : Ends (c :: rest) := by
  rintro _ ⟨⟩
  exact mark

namespace Tree

def resume (value : Tree) (frames : List Frame) (rest : List Token) : Tree × Bool :=
  match frames with
  | [] => (value, rest.isEmpty)
  | frame :: outer => build rest (frame.push value :: outer) .next

def Phase.Opens (phase : Phase) : Prop := phase = .value ∨ phase = .firstItem
def Phase.Names (phase : Phase) : Prop := phase = .key ∨ phase = .firstKey

section

variable (frames : List Frame) (rest : List Token) (phase : Phase) (opens : phase.Opens)

include opens

theorem build_null : build (.null :: rest) frames phase = resume .null frames rest := by
  obtain rfl | rfl := opens <;> rfl

theorem build_bool (b : Bool) : build (.bool b :: rest) frames phase = resume (.bool b) frames rest := by
  obtain rfl | rfl := opens <;> rfl

theorem build_number (n : Option JsonNumber) :
    build (.number n :: rest) frames phase = resume (.number n) frames rest := by
  obtain rfl | rfl := opens <;> rfl

theorem build_string (s : Option String) :
    build (.string s :: rest) frames phase = resume (.string s) frames rest := by
  obtain rfl | rfl := opens <;> cases frames <;> rfl

theorem build_openArray :
    build (.openArray :: rest) frames phase = build rest (.array [] :: frames) .firstItem := by
  obtain rfl | rfl := opens <;> rfl

theorem build_openObject :
    build (.openObject :: rest) frames phase = build rest (.object [] none :: frames) .firstKey := by
  obtain rfl | rfl := opens <;> rfl

end

section

variable (frames : List Frame) (rest : List Token) (fits : frames.length < maxDepth)

include fits

theorem nested_fits (container : Tree) : nested (frames.length + 1) container = container := by
  rw [nested, if_neg (by omega)]

theorem build_closeArray (done : List Tree) (phase : Phase)
    (between : phase = .firstItem ∨ phase = .next) :
    build (.closeArray :: rest) (.array done :: frames) phase =
      resume (.array done.reverse true) frames rest := by
  have whole := nested_fits frames fits (.array done.reverse true)
  obtain rfl | rfl := between <;> cases frames <;> simp_all [build, resume, Frame.close]

theorem build_closeObject (done : List (Option String × Tree)) (key : Option String) (phase : Phase)
    (between : phase = .firstKey ∨ phase = .next) :
    build (.closeObject :: rest) (.object done key :: frames) phase =
      resume (.object done.reverse true) frames rest := by
  have whole := nested_fits frames fits (.object done.reverse true)
  obtain rfl | rfl := between <;> cases frames <;> simp_all [build, resume, Frame.close]

end

theorem build_key (done : List (Option String × Tree)) (old key : Option String) (frames : List Frame)
    (rest : List Token) (phase : Phase) (names : phase.Names) :
    build (.string key :: .colon :: rest) (.object done old :: frames) phase =
      build rest (.object done key :: frames) .value := by
  obtain rfl | rfl := names <;> rfl

end Tree

def behindCommas (texts : List String) : List Char := texts.flatMap fun text => ',' :: text.toList

theorem behindCommas_cons (text : String) (texts : List String) (rest : List Char) :
    behindCommas (text :: texts) ++ rest = ',' :: (text.toList ++ (behindCommas texts ++ rest)) := by
  simp [behindCommas]

theorem intercalate_commas (first : String) (texts : List String) :
    (String.intercalate "," (first :: texts)).toList = first.toList ++ behindCommas texts := by
  induction texts generalizing first with
  | nil => simp [behindCommas]
  | cons text texts ih =>
      rw [String.intercalate_cons_cons, String.toList_append, String.toList_append, ih]
      simp [behindCommas]

theorem ends_commas (texts : List String) (mark : Char) (rest : List Char)
    (closes : Ends (mark :: rest)) : Ends (behindCommas texts ++ mark :: rest) := by
  cases texts with
  | nil => exact closes
  | cons text texts =>
      rw [behindCommas_cons]
      exact ends_mark _ _ (by decide)

namespace Tree

theorem build_member (key : String) (value : Json) (rest : List Char)
    (done : List (Option String × Tree)) (old : Option String) (frames : List Frame) (phase : Phase)
    (names : phase.Names)
    (read : build (tokens ((text value).toList ++ rest)) (.object done (some key) :: frames) .value =
      resume (through JsonNumber.reread value) (.object done (some key) :: frames) (tokens rest)) :
    build (tokens ((quoteString key ++ ":" ++ text value).toList ++ rest)) (.object done old :: frames)
        phase =
      build (tokens rest)
        (.object ((some key, through JsonNumber.reread value) :: done) (some key) :: frames) .next := by
  have split : (quoteString key ++ ":" ++ text value).toList ++ rest =
      (quoteString key).toList ++ ':' :: ((text value).toList ++ rest) := by
    simp
  rw [split, tokens_string, tokens_mark ':' .colon _ rfl rfl, build_key _ _ _ _ _ _ names, read]
  rfl

mutual
theorem build_text (value : Json) (rest : List Char) (ends : Ends rest) (frames : List Frame)
    (phase : Phase) (opens : phase.Opens) (fits : frames.length + depth value ≤ maxDepth) :
    build (tokens ((text value).toList ++ rest)) frames phase =
      resume (through JsonNumber.reread value) frames (tokens rest) := by
  cases value with
  | null =>
      have first : tokens ((text .null).toList ++ rest) = .null :: tokens rest :=
        tokens_word 'n' ['u', 'l', 'l'] rest .null rfl rfl
      rw [first]
      exact build_null frames (tokens rest) phase opens
  | bool b =>
      have first : tokens ((text (.bool b)).toList ++ rest) = .bool b :: tokens rest := by
        cases b with
        | true => exact tokens_word 't' ['r', 'u', 'e'] rest (.bool true) rfl rfl
        | false => exact tokens_word 'f' ['a', 'l', 's', 'e'] rest (.bool false) rfl rfl
      rw [first]
      exact build_bool frames (tokens rest) phase opens b
  | number n =>
      rw [text, tokens_number n rest ends, build_number _ _ _ opens]
      rfl
  | string s =>
      rw [text, tokens_string, build_string _ _ _ opens]
      rfl
  | array items =>
      rw [depth] at fits
      have opened : ∀ inside, tokens ((("[" ++ inside : String) ++ "]").toList ++ rest) =
          .openArray :: tokens (inside.toList ++ ']' :: rest) := by
        intro inside
        rw [← tokens_mark '[' .openArray _ rfl rfl]
        simp
      rw [text, opened, build_openArray _ _ _ opens]
      cases items with
      | nil =>
          have closed : tokens ((String.intercalate "," (itemTexts [])).toList ++ ']' :: rest) =
              .closeArray :: tokens rest := tokens_mark ']' .closeArray rest rfl rfl
          rw [closed]
          exact build_closeArray frames (tokens rest) (by omega) [] .firstItem (.inl rfl)
      | cons item items =>
          rw [itemsDepth] at fits
          have ends := ends_commas (itemTexts items) ']' rest (ends_mark _ _ (by decide))
          rw [itemTexts, intercalate_commas, List.append_assoc,
            build_text item _ ends (.array [] :: frames) .firstItem (.inr rfl)
              (by rw [List.length_cons]; omega)]
          exact build_items items rest [through JsonNumber.reread item] frames (by omega)
  | object members =>
      rw [depth] at fits
      have opened : ∀ inside, tokens ((("\x7b" ++ inside : String) ++ "\x7d").toList ++ rest) =
          .openObject :: tokens (inside.toList ++ '\x7d' :: rest) := by
        intro inside
        rw [← tokens_mark '\x7b' .openObject _ rfl rfl]
        simp
      rw [text, opened, build_openObject _ _ _ opens]
      cases members with
      | nil =>
          have closed : tokens ((String.intercalate "," (memberTexts [])).toList ++ '\x7d' :: rest) =
              .closeObject :: tokens rest := tokens_mark '\x7d' .closeObject rest rfl rfl
          rw [closed]
          exact build_closeObject frames (tokens rest) (by omega) [] none .firstKey (.inl rfl)
      | cons member members =>
          obtain ⟨key, value⟩ := member
          rw [membersDepth] at fits
          have ends := ends_commas (memberTexts members) '\x7d' rest (ends_mark _ _ (by decide))
          rw [memberTexts, intercalate_commas, List.append_assoc,
            build_member key value _ [] none frames .firstKey (.inr rfl)
              (build_text value _ ends _ .value (.inl rfl) (by rw [List.length_cons]; omega))]
          exact build_members members rest [(some key, through JsonNumber.reread value)] (some key) frames
            (by omega)

theorem build_items (items : List Json) (rest : List Char) (done : List Tree) (frames : List Frame)
    (fits : frames.length + 1 + itemsDepth items ≤ maxDepth) :
    build (tokens (behindCommas (itemTexts items) ++ ']' :: rest)) (.array done :: frames) .next =
      resume (.array (done.reverse ++ itemsThrough JsonNumber.reread items) true) frames
        (tokens rest) := by
  cases items with
  | nil =>
      have closed : tokens (behindCommas (itemTexts []) ++ ']' :: rest) = .closeArray :: tokens rest :=
        tokens_mark ']' .closeArray rest rfl rfl
      rw [itemsThrough, List.append_nil, closed]
      exact build_closeArray frames (tokens rest) (by omega) done .next (.inr rfl)
  | cons item items =>
      rw [itemsDepth] at fits
      have ends := ends_commas (itemTexts items) ']' rest (ends_mark _ _ (by decide))
      have more := build_items items rest (through JsonNumber.reread item :: done) frames (by omega)
      rw [itemTexts, behindCommas_cons, tokens_mark ',' .comma _ rfl rfl]
      change build (tokens _) (.array done :: frames) .value = _
      rw [build_text item _ ends (.array done :: frames) .value (.inl rfl)
        (by rw [List.length_cons]; omega)]
      rw [List.reverse_cons, List.append_assoc] at more
      exact more

theorem build_members (members : List (String × Json)) (rest : List Char)
    (done : List (Option String × Tree)) (key : Option String) (frames : List Frame)
    (fits : frames.length + 1 + membersDepth members ≤ maxDepth) :
    build (tokens (behindCommas (memberTexts members) ++ '\x7d' :: rest)) (.object done key :: frames)
        .next =
      resume (.object (done.reverse ++ membersThrough JsonNumber.reread members) true) frames
        (tokens rest) := by
  cases members with
  | nil =>
      have closed : tokens (behindCommas (memberTexts []) ++ '\x7d' :: rest) =
          .closeObject :: tokens rest := tokens_mark '\x7d' .closeObject rest rfl rfl
      rw [membersThrough, List.append_nil, closed]
      exact build_closeObject frames (tokens rest) (by omega) done key .next (.inr rfl)
  | cons member members =>
      obtain ⟨name, value⟩ := member
      rw [membersDepth] at fits
      have ends := ends_commas (memberTexts members) '\x7d' rest (ends_mark _ _ (by decide))
      have more := build_members members rest ((some name, through JsonNumber.reread value) :: done)
        (some name) frames (by omega)
      rw [memberTexts, behindCommas_cons, tokens_mark ',' .comma _ rfl rfl]
      change build (tokens _) (.object done key :: frames) .key = _
      rw [build_member name value _ done key frames .key (.inl rfl)
        (build_text value _ ends _ .value (.inl rfl) (by rw [List.length_cons]; omega))]
      rw [List.reverse_cons, List.append_assoc] at more
      exact more
end

end Tree

-- The text of a value is read as a whole, and as the value but for its numbers.
theorem readTree_text (value : Json) (fits : depth value ≤ maxDepth) :
    readTree (text value) = (through JsonNumber.reread value, true) := by
  have read := Tree.build_text value [] (by rintro c ⟨⟩) [] .value (.inl rfl) (by simpa using fits)
  rw [List.append_nil] at read
  rw [readTree, read, Tree.resume, tokens]
  rfl

mutual
theorem through_some (json : Json) : through some json = Tree.ofJson json := by
  cases json with
  | array items => rw [through, itemsThrough_some items, Tree.ofJson]
  | object members => rw [through, membersThrough_some members, Tree.ofJson]
  | _ => rfl

theorem itemsThrough_some (items : List Json) : itemsThrough some items = Tree.ofItems items := by
  cases items with
  | nil => rfl
  | cons item rest => rw [itemsThrough, through_some item, itemsThrough_some rest, Tree.ofItems]

theorem membersThrough_some (members : List (String × Json)) :
    membersThrough some members = Tree.ofMembers members := by
  cases members with
  | nil => rfl
  | cons member rest =>
      obtain ⟨key, value⟩ := member
      rw [membersThrough, through_some value, membersThrough_some rest, Tree.ofMembers]
end

namespace Reader

variable {α ρ : Type} (f : JsonNumber → Option JsonNumber)

theorem record_through (origin : Origin) (name : String) (fields : List Field) (start : ρ)
    (set : ρ → String → Tree → Except ShapeError ρ) (members : List (String × Json))
    (known : Known fields (members.map fun (key, json) => (key, through f json)))
    (complete : ∀ f ∈ fields, f.required = true → f.name ∈ members.map Prod.fst) :
    record origin name fields start set (through f (.object members)) =
      members.foldlM (fun record (key, json) => set record key (through f json)) start := by
  have named : (members.map fun (key, json) => (key, through f json)).map Prod.fst =
      members.map Prod.fst := by
    simp
  have read := record_of_known origin name fields start set _ known (by rwa [named])
  rw [List.map_map, List.foldlM_map] at read
  rw [through, membersThrough_eq_map]
  exact read

theorem list_through (read : Reader α) (items : List Json) :
    list read (through f (.array items)) = items.mapM fun item => read (through f item) := by
  rw [through, list, itemsThrough_eq_map, List.mapM_map]
  simp only [if_true, bind_pure]
  rfl

theorem strings_through (names : List String) :
    list string (through f (.array (names.map .string))) = .ok names := by
  rw [list_through, mapM_ok_iff, List.forall₂_map_left_iff, List.forall₂_same]
  intro name member
  rfl

end Reader

end Json

end EntitySchema
