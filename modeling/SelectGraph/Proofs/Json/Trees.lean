import SelectGraph.Proofs.Sql.Evaluation

/-!
# Tokens of a value

A value has one sequence of tokens.  A reader takes it for what the reader's algebra makes of the
value, and a reader that finds a value has read the tokens of one.
-/

namespace SelectGraph.Json

open List

open Sql (bind_eq_ok)

/-! ## Tokens -/

mutual

def flat : Json → List Token
  | .null => [.null]
  | .bool value => [.bool value]
  | .number digits => [.number digits]
  | .text value => [.text value]
  | .list items => .openBracket :: flatItems items ++ [.closeBracket]
  | .object members => .openBrace :: flatMembers members ++ [.closeBrace]

def flatItems : List Json → List Token
  | [] => []
  | item :: items => flat item ++ moreItems items

/-- The tokens of the items that follow another one. -/
def moreItems : List Json → List Token
  | [] => []
  | item :: items => .comma :: flat item ++ moreItems items

def flatMembers : List (String × Json) → List Token
  | [] => []
  | (key, value) :: members => .text key :: .colon :: flat value ++ moreMembers members

/-- The tokens of the members that follow another one. -/
def moreMembers : List (String × Json) → List Token
  | [] => []
  | (key, value) :: members => .comma :: .text key :: .colon :: flat value ++ moreMembers members

end

/-! ## Values -/

variable {α ε : Type}

mutual

def fold (algebra : Algebra α ε) : Json → Except ε α
  | .null => .ok algebra.null
  | .bool value => .ok (algebra.bool value)
  | .number digits => algebra.number digits
  | .text value => .ok (algebra.text value)
  | .list items => do return algebra.list (← foldItems algebra items)
  | .object members => do return algebra.object (← foldMembers algebra members)

def foldItems (algebra : Algebra α ε) : List Json → Except ε (List α)
  | [] => .ok []
  | item :: items => do
      let first ← fold algebra item
      let others ← foldItems algebra items
      return first :: others

def foldMembers (algebra : Algebra α ε) : List (String × Json) → Except ε (List (String × α))
  | [] => .ok []
  | (key, value) :: members => do
      let first ← fold algebra value
      let others ← foldMembers algebra members
      return (key, first) :: others

end

mutual

theorem fold_plainAlgebra (value : Json) : value.fold plainAlgebra = .ok value := by
  cases value with
  | null | bool | number | text => rfl
  | list items =>
    rw [fold, foldItems_plainAlgebra _]
    rfl
  | object members =>
    rw [fold, foldMembers_plainAlgebra _]
    rfl

theorem foldItems_plainAlgebra (items : List Json) : foldItems plainAlgebra items = .ok items := by
  cases items with
  | nil => rfl
  | cons item items =>
    rw [foldItems, fold_plainAlgebra item, foldItems_plainAlgebra _]
    rfl

theorem foldMembers_plainAlgebra (members : List (String × Json)) :
    foldMembers plainAlgebra members = .ok members := by
  cases members with
  | nil => rfl
  | cons member members =>
    obtain ⟨key, value⟩ := member
    rw [foldMembers, fold_plainAlgebra _, foldMembers_plainAlgebra _]
    rfl

end

theorem foldMembers_eq_ok {algebra : Algebra α ε} {members : List (String × Json)}
    {values : List (String × α)} :
    foldMembers algebra members = .ok values ↔
      List.Forall₂ (fun member value => member.1 = value.1 ∧ member.2.fold algebra = .ok value.2)
        members values := by
  induction members generalizing values with
  | nil =>
    rw [forall₂_nil_left_iff]
    exact ⟨fun same => (Except.ok.inj same).symm, fun same => same ▸ rfl⟩
  | cons member members ih =>
    obtain ⟨key, json⟩ := member
    rw [foldMembers, forall₂_cons_left_iff]
    constructor
    · intro made
      obtain ⟨first, madeFirst, made⟩ := bind_eq_ok.mp made
      obtain ⟨others, madeOthers, same⟩ := bind_eq_ok.mp made
      cases same
      exact ⟨(key, first), others, ⟨rfl, madeFirst⟩, ih.mp madeOthers, rfl⟩
    · rintro ⟨⟨name, first⟩, others, ⟨rfl, madeFirst⟩, alike, rfl⟩
      rw [madeFirst, ih.mpr alike]
      rfl

/-! ## Reading the tokens of a value -/

namespace State

variable (algebra : Algebra α ε)

theorem run_step {state : State α} (unread : state.result = none) (token : Token)
    (rest : List Token) :
    state.run algebra (token :: rest) = state.step algebra token >>= fun next => next.run algebra rest := by
  rw [run, unread]

theorem run_firstItem (frames : List (Frame α)) {token : Token} (other : token ≠ .closeBracket)
    (rest : List Token) :
    run algebra ⟨frames, .firstItem, none⟩ (token :: rest) =
      run algebra ⟨frames, .value, none⟩ (token :: rest) := by
  cases token with
  | closeBracket => exact absurd rfl other
  | _ => rfl

theorem run_firstItem_flat (json : Json) (frames : List (Frame α)) (rest : List Token) :
    run algebra ⟨frames, .firstItem, none⟩ (json.flat ++ rest) =
      run algebra ⟨frames, .value, none⟩ (json.flat ++ rest) := by
  cases json <;> rfl

mutual

/-- A reader takes the tokens of a value for what its algebra makes of the value. -/
theorem run_flat (json : Json) (frames : List (Frame α)) (rest : List Token) :
    run algebra ⟨frames, .value, none⟩ (json.flat ++ rest) =
      json.fold algebra >>= fun value => (finish frames value).run algebra rest := by
  cases json with
  | null | bool | text => rfl
  | number digits =>
    rw [flat, singleton_append, fold]
    change (algebra.number _ >>= fun value => .ok _) >>= _ = _
    cases algebra.number _ <;> rfl
  | list items =>
    have opened : run algebra ⟨frames, .value, none⟩ ((Json.list items).flat ++ rest) =
        run algebra ⟨.list [] :: frames, .firstItem, none⟩
          (flatItems items ++ .closeBracket :: rest) := by
      rw [flat, cons_append, cons_append, append_assoc]
      rfl
    rw [opened]
    cases items with
    | nil => rfl
    | cons item items =>
      rw [flatItems, append_assoc, run_firstItem_flat, run_flat item, fold, foldItems]
      cases item.fold _ with
      | error fault => rfl
      | ok value =>
        refine (run_moreItems _ [value] _ rest).trans ?_
        cases foldItems _ _ <;> rfl
  | object members =>
    have opened : run algebra ⟨frames, .value, none⟩ ((Json.object members).flat ++ rest) =
        run algebra ⟨.object [] "" :: frames, .firstKey, none⟩
          (flatMembers members ++ .closeBrace :: rest) := by
      rw [flat, cons_append, cons_append, append_assoc]
      rfl
    rw [opened]
    cases members with
    | nil => rfl
    | cons member members =>
      obtain ⟨key, json⟩ := member
      have named : run algebra ⟨.object [] "" :: frames, .firstKey, none⟩
          (flatMembers ((key, json) :: members) ++ .closeBrace :: rest) =
          run algebra ⟨.object [] key :: frames, .value, none⟩
            (json.flat ++ (moreMembers members ++ .closeBrace :: rest)) := by
        rw [flatMembers, cons_append, cons_append, cons_append, cons_append,
          append_assoc]
        rfl
      rw [named, run_flat json, fold, foldMembers]
      cases json.fold _ with
      | error fault => rfl
      | ok value =>
        refine (run_moreMembers _ [(key, value)] key _ rest).trans ?_
        cases foldMembers _ _ <;> rfl

theorem run_moreItems (items : List Json) (before : List α) (outer : List (Frame α))
    (rest : List Token) :
    run algebra ⟨.list before :: outer, .itemEnd, none⟩ (moreItems items ++ .closeBracket :: rest) =
      foldItems algebra items >>= fun values =>
        (finish outer (algebra.list (before.reverse ++ values))).run algebra rest := by
  cases items with
  | nil =>
    change _ = (finish _ _).run _ rest
    rw [append_nil]
    rfl
  | cons item items =>
    have next : run algebra ⟨.list before :: outer, .itemEnd, none⟩
        (moreItems (item :: items) ++ .closeBracket :: rest) =
        run algebra ⟨.list before :: outer, .value, none⟩
          (item.flat ++ (moreItems items ++ .closeBracket :: rest)) := by
      rw [moreItems, cons_append, cons_append, append_assoc]
      rfl
    rw [next, run_flat item, foldItems]
    cases item.fold _ with
    | error fault => rfl
    | ok value =>
      refine (run_moreItems _ _ _ rest).trans ?_
      rw [reverse_cons]
      cases foldItems _ _ with
      | error fault => rfl
      | ok values =>
        exact congrArg (fun all => (finish _ _).run _ rest)
          (append_assoc _ _ _)

theorem run_moreMembers (members : List (String × Json)) (before : List (String × α)) (key : String)
    (outer : List (Frame α)) (rest : List Token) :
    run algebra ⟨.object before key :: outer, .fieldEnd, none⟩
        (moreMembers members ++ .closeBrace :: rest) =
      foldMembers algebra members >>= fun values =>
        (finish outer (algebra.object (before.reverse ++ values))).run algebra rest := by
  cases members with
  | nil =>
    change _ = (finish _ _).run _ rest
    rw [append_nil]
    rfl
  | cons member members =>
    obtain ⟨name, json⟩ := member
    have next : run algebra ⟨.object before key :: outer, .fieldEnd, none⟩
        (moreMembers ((name, json) :: members) ++ .closeBrace :: rest) =
        run algebra ⟨.object before name :: outer, .value, none⟩
          (json.flat ++ (moreMembers members ++ .closeBrace :: rest)) := by
      rw [moreMembers, cons_append, cons_append, cons_append, cons_append,
        cons_append, cons_append, append_assoc]
      rfl
    rw [next, run_flat json, foldMembers]
    cases json.fold _ with
    | error fault => rfl
    | ok value =>
      refine (run_moreMembers _ _ name _ rest).trans ?_
      rw [reverse_cons]
      cases foldMembers _ _ with
      | error fault => rfl
      | ok values =>
        exact congrArg (fun all => (finish _ _).run _ rest)
          (append_assoc _ _ _)

end

/-! ## What a reader has read -/

variable {algebra} {result : α × List Token}

theorem run_flat_eq_ok {json : Json} {frames : List (Frame α)} {rest : List Token}
    (read : run algebra ⟨frames, .value, none⟩ (json.flat ++ rest) = .ok result) :
    ∃ value, json.fold algebra = .ok value ∧ (finish frames value).run algebra rest = .ok result := by
  rw [run_flat] at read
  exact bind_eq_ok.mp read

theorem run_key_eq_ok {before : List (String × α)} {key : String} {outer : List (Frame α)}
    {expected : Expected} (expects : expected = .key ∨ expected = .firstKey) {tokens : List Token}
    (read : run algebra ⟨.object before key :: outer, expected, none⟩ tokens = .ok result) :
    (expected = .firstKey ∧ ∃ rest, tokens = .closeBrace :: rest) ∨
      ∃ name rest, tokens = .text name :: .colon :: rest ∧
        run algebra ⟨.object before name :: outer, .value, none⟩ rest = .ok result := by
  cases tokens with
  | nil => cases read
  | cons token tokens =>
    cases token with
    | text name =>
      right
      cases tokens with
      | nil => rcases expects with rfl | rfl <;> cases read
      | cons token tokens =>
        cases token with
        | colon => rcases expects with rfl | rfl <;> exact ⟨name, tokens, rfl, read⟩
        | _ => rcases expects with rfl | rfl <;> cases read
    | closeBrace =>
      rcases expects with rfl | rfl
      · cases read
      · exact .inl ⟨rfl, tokens, rfl⟩
    | _ => rcases expects with rfl | rfl <;> cases read

/-- A reader that ends well has read the tokens of a value, or those that were missing to the end of
an array or an object. -/
theorem exists_flat_of_run (tokens : List Token) :
    (∀ {frames : List (Frame α)}, run algebra ⟨frames, .value, none⟩ tokens = .ok result →
      ∃ json rest, tokens = flat json ++ rest) ∧
    (∀ {before : List α} {outer : List (Frame α)},
      run algebra ⟨.list before :: outer, .itemEnd, none⟩ tokens = .ok result →
      ∃ items rest, tokens = moreItems items ++ .closeBracket :: rest) ∧
    (∀ {before : List (String × α)} {key : String} {outer : List (Frame α)},
      run algebra ⟨.object before key :: outer, .fieldEnd, none⟩ tokens = .ok result →
      ∃ members rest, tokens = moreMembers members ++ .closeBrace :: rest) := by
  induction size : tokens.length using Nat.strong_induction_on generalizing tokens with
  | _ size ih =>
    subst size
    -- In fewer tokens an item or a member is found together with those that follow it.
    have items {fewer : List Token} (shorter : fewer.length < tokens.length) {before : List α}
        {outer : List _}
        (read : run algebra ⟨.list before :: outer, .value, none⟩ fewer = .ok result) :
        ∃ item items rest, fewer = flat item ++ (moreItems items ++ .closeBracket :: rest) := by
      obtain ⟨item, more, rfl⟩ := (ih _ shorter _ rfl).1 read
      obtain ⟨_, -, others⟩ := run_flat_eq_ok read
      rw [length_append] at shorter
      obtain ⟨items, rest, rfl⟩ := (ih _ (by omega) more rfl).2.1 others
      exact ⟨item, items, rest, rfl⟩
    have members {fewer : List _} (shorter : fewer.length < tokens.length)
        {before : List _} {key : String} {outer : List _}
        (read : run algebra ⟨.object before key :: outer, .value, none⟩ fewer = .ok result) :
        ∃ json members rest, fewer = flat json ++ (moreMembers members ++ .closeBrace :: rest) := by
      obtain ⟨json, more, rfl⟩ := (ih _ shorter _ rfl).1 read
      obtain ⟨_, -, others⟩ := run_flat_eq_ok read
      rw [length_append] at shorter
      obtain ⟨members, rest, rfl⟩ := (ih _ (by omega) more rfl).2.2 others
      exact ⟨json, members, rest, rfl⟩
    refine ⟨?_, ?_, ?_⟩
    · intro frames read
      cases tokens with
      | nil => cases read
      | cons token tokens =>
        cases token with
        | null => exact ⟨.null, tokens, rfl⟩
        | bool value => exact ⟨.bool _, tokens, rfl⟩
        | number digits => exact ⟨.number _, tokens, rfl⟩
        | text value => exact ⟨.text _, tokens, rfl⟩
        | openBracket =>
          cases tokens with
          | nil => cases read
          | cons token tokens =>
            by_cases closed : token = .closeBracket
            · subst closed
              exact ⟨.list [], tokens, rfl⟩
            · obtain ⟨item, others, rest, split⟩ := items (by simp)
                ((run_firstItem _ _ closed _).symm.trans read)
              refine ⟨.list (item :: others), rest, ?_⟩
              rw [split, flat, flatItems]
              simp
        | openBrace =>
          rcases run_key_eq_ok (.inr rfl) read with ⟨-, rest, rfl⟩ | ⟨name, rest, rfl, read⟩
          · exact ⟨.object [], rest, rfl⟩
          · obtain ⟨json, others, rest, rfl⟩ := members (by simp; omega) read
            refine ⟨.object ((name, json) :: others), rest, ?_⟩
            rw [flat, flatMembers]
            simp
        | closeBracket | closeBrace | colon | comma | malformed => cases read
    · intro before outer read
      cases tokens with
      | nil => cases read
      | cons token tokens =>
        cases token with
        | closeBracket => exact ⟨[], tokens, rfl⟩
        | comma =>
          obtain ⟨item, others, rest, rfl⟩ := items (by simp) read
          refine ⟨item :: others, rest, ?_⟩
          rw [moreItems]
          simp
        | _ => cases read
    · intro before key outer read
      cases tokens with
      | nil => cases read
      | cons token tokens =>
        cases token with
        | closeBrace => exact ⟨[], tokens, rfl⟩
        | comma =>
          rcases run_key_eq_ok (.inl rfl) read with ⟨impossible, -⟩ | ⟨name, rest, rfl, read⟩
          · cases impossible
          · obtain ⟨json, others, rest, rfl⟩ := members (by simp; omega) read
            refine ⟨(name, json) :: others, rest, ?_⟩
            rw [moreMembers]
            simp
        | _ => cases read

end State

/-- A reader finds a value just in texts that begin with the tokens of one. -/
theorem readValue_eq_ok {algebra : Algebra α ε} {tokens rest : List Token} {value : α} :
    readValue algebra tokens = .ok (value, rest) ↔
      ∃ json, tokens = flat json ++ rest ∧ json.fold algebra = .ok value := by
  constructor
  · intro read
    obtain ⟨json, after, rfl⟩ := (State.exists_flat_of_run _).1 read
    obtain ⟨found, made, ended⟩ := State.run_flat_eq_ok read
    cases after <;> cases ended <;> exact ⟨json, rfl, made⟩
  · rintro ⟨json, rfl, made⟩
    refine (State.run_flat _ json [] rest).trans ?_
    rw [made]
    cases rest <;> rfl

end SelectGraph.Json
