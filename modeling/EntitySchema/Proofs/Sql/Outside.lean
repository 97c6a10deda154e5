import EntitySchema.Proofs.Filter.Likeness
import EntitySchema.Proofs.Sql.Write

set_option autoImplicit false

namespace EntitySchema

open Sql Sql.Fragment

namespace Sql

def Token.masked : Token → Token
  | .char c => .char c
  | .name _ => .name []
  | .place _ => .place 0

def outside (sql : String) : List Token := (tokens sql).map Token.masked

namespace Fragment

def outside (fragment : Fragment) : List Token := fragment.tokens.map Token.masked

theorem outside_render (fragment : Fragment) (readable : fragment.Readable) :
    Sql.outside fragment.render = fragment.outside := by
  rw [Sql.outside, tokens_render fragment readable, outside]

@[simp]
theorem outside_append (left right : Fragment) :
    (left ++ right).outside = left.outside ++ right.outside := by
  simp [outside]

theorem outside_cons (piece : Piece) (rest : Fragment) :
    outside (piece :: rest) = piece.tokens.map Token.masked ++ outside rest := by
  simp [outside, tokens]

theorem outside_join (separator : String) (left right : List Fragment)
    (alike : List.Forall₂ (fun a b => a.outside = b.outside) left right) :
    (join separator left).outside = (join separator right).outside := by
  induction alike with
  | nil => rfl
  | cons here later ih =>
      cases later with
      | nil => exact here
      | cons _ _ => simp only [join, outside_append, outside_cons, here, ih]

end Fragment

end Sql

structure SelectRequest.Alike (e : Entity) (modes : MatchModes) (a b : SelectRequest) : Prop where
  filters : FilterMap.Alike e modes a.filters b.filters
  connective : a.connective = b.connective
  pagination : a.pagination = b.pagination
  page : a.rows.isSome = b.rows.isSome
  sorted : a.sortField.any e.isSelectable = b.sortField.any e.isSelectable
  order : a.sortOrder = b.sortOrder

theorem orderClause_outside (e : Entity) (a b : SelectRequest)
    (sorted : a.sortField.any e.isSelectable = b.sortField.any e.isSelectable)
    (order : a.sortOrder = b.sortOrder) :
    (e.orderClause a).outside = (e.orderClause b).outside := by
  have written : ∀ request : SelectRequest, (e.orderClause request).outside =
      if request.sortField.any e.isSelectable then
        Fragment.outside [.text " ORDER BY ", .name "", .text (" " ++ request.sortOrder.name)]
      else [] := by
    intro request
    unfold Entity.orderClause
    cases request.sortField with
    | none => rfl
    | some field =>
        cases shown : e.isSelectable field with
        | true => simp [shown, outside_cons, Piece.tokens, Token.masked]
        | false => simp [shown, Fragment.outside]
  rw [written a, written b, sorted, order]

theorem pageClause_outside (a b : SelectRequest) (bound : Nat) (page : a.rows.isSome = b.rows.isSome) :
    (a.pageClause bound).sql = (b.pageClause bound).sql := by
  unfold SelectRequest.pageClause
  cases given : a.rows <;> cases given' : b.rows <;> simp_all

theorem select_outside (e : Entity) (modes : MatchModes) (a b : SelectRequest)
    (alike : a.Alike e modes b) :
    (e.select modes a).sql.outside = (e.select modes b).sql.outside := by
  have compiled := filterMap_alike e modes _ _ alike.filters 0
  have condition : (a.filters.compile e modes 0).whereClause a.connective =
      (b.filters.compile e modes 0).whereClause b.connective := by
    rw [Compiled.whereClause, Compiled.whereClause, Compiled.predicate?, Compiled.predicate?,
      compiled.fragments, alike.connective]
  have order := orderClause_outside e a b alike.sorted alike.order
  have page := pageClause_outside a b (b.filters.compile e modes 0).values.length alike.page
  simp only [Entity.select, outside_append, condition, order, compiled.count, page,
    alike.pagination]

theorem setColumns_outside (e : Entity) (columns others : List String) (a b : Record) (id id' : Json)
    (sameCount : columns.length = others.length) :
    (e.setColumns columns a id).sql.outside = (e.setColumns others b id').sql.outside := by
  have written : ∀ pair, (assignment pair).outside = (assignment ("", 0)).outside := fun _ => rfl
  have list : (join ", " ((numberedColumns columns).map assignment)).outside =
      (join ", " ((numberedColumns others).map assignment)).outside := by
    apply outside_join
    apply List.forall₂_iff_get.mpr
    refine ⟨by simp [numberedColumns, sameCount], ?_⟩
    intro i _ _
    simp only [List.get_eq_getElem, List.getElem_map]
    exact (written _).trans (written _).symm
  simp [Entity.setColumns, Entity.assign, whereId, outside_cons, list, Piece.tokens, Token.masked]

end EntitySchema
