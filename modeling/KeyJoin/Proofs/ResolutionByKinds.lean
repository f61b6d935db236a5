import KeyJoin.JoinRecognition
import KeyJoin.Proofs.ListPieces
import KeyJoin.Proofs.SelectListItems

/-!
# Resolution by the kinds of tokens

Tokens carry the positions they stand at, but a select list is resolved and a
key condition is read from their kinds alone.  Two lists of tokens with the
same kinds have the same items, the same fields, the same fault and suggestion,
and the same key condition.
-/

namespace KeyJoin

variable {a b : List Token}

theorem columnReference?_congr (h : a.map Token.kind = b.map Token.kind) :
    columnReference? a = columnReference? b := by
  simp only [columnReference?, h]

theorem tokensText_eq (tokens : List Token) :
    tokensText tokens = (tokens.map Token.kind).flatMap TokenKind.text := by
  rw [tokensText, List.flatMap_map]

theorem tokensText_congr (h : a.map Token.kind = b.map Token.kind) :
    tokensText a = tokensText b := by
  rw [tokensText_eq, tokensText_eq, h]

/-! ## Select lists -/

theorem map_kind_selectItems (tokens : List Token) :
    (selectItems tokens).map (List.map Token.kind) =
      (tokens.map Token.kind).splitOn .comma := by
  rw [List.splitOn, splitOnP_map]
  rfl

theorem JoinScope.resolveItem_congr (scope : JoinScope)
    (h : a.map Token.kind = b.map Token.kind) : scope.resolveItem a = scope.resolveItem b := by
  simp only [JoinScope.resolveItem, columnReference?_congr h, tokensText_congr h]

theorem resolveItems_congr (scope : JoinScope) {first second : List (List Token)}
    (h : first.map (List.map Token.kind) = second.map (List.map Token.kind)) :
    resolveItems scope first = resolveItems scope second := by
  induction first generalizing second with
  | nil =>
      have hnil : second = [] := by simpa using h.symm
      rw [hnil]
  | cons item items ih =>
      cases second with
      | nil => cases h
      | cons other others =>
          rw [List.map_cons, List.map_cons, List.cons.injEq] at h
          simp only [resolveItems, scope.resolveItem_congr h.1, ih h.2]

theorem JoinScope.projection_congr (scope : JoinScope)
    (h : a.map Token.kind = b.map Token.kind) : scope.projection a = scope.projection b := by
  have hitems : resolveItems scope (selectItems a) = resolveItems scope (selectItems b) := by
    refine resolveItems_congr scope ?_
    rw [map_kind_selectItems, map_kind_selectItems, h]
  rw [selectItems, selectItems] at hitems
  simp only [JoinScope.projection, h, hitems]

/-! ## Key conditions -/

theorem keyCondition?_congr (h : a.map Token.kind = b.map Token.kind) :
    keyCondition? a = keyCondition? b := by
  have hleft : columnReference? (a.takeWhile fun token => token.kind != .equals) =
      columnReference? (b.takeWhile fun token => token.kind != .equals) := by
    refine columnReference?_congr ?_
    have htake := congrArg (List.takeWhile fun kind => kind != .equals) h
    rwa [List.takeWhile_map, List.takeWhile_map] at htake
  have hdrop : (a.dropWhile fun token => token.kind != .equals).map Token.kind =
      (b.dropWhile fun token => token.kind != .equals).map Token.kind := by
    have hdrop := congrArg (List.dropWhile fun kind => kind != .equals) h
    rwa [List.dropWhile_map, List.dropWhile_map] at hdrop
  simp only [keyCondition?, hleft]
  cases ha : a.dropWhile fun token => token.kind != .equals with
  | nil =>
      rw [ha] at hdrop
      rw [List.map_eq_nil_iff.mp hdrop.symm]
  | cons first right =>
      cases hb : b.dropWhile fun token => token.kind != .equals with
      | nil =>
          rw [ha, hb] at hdrop
          cases hdrop
      | cons first' right' =>
          rw [ha, hb, List.map_cons, List.map_cons, List.cons.injEq] at hdrop
          simp only [columnReference?_congr hdrop.2]

end KeyJoin
