import LineTemplate.Proofs.Expressions

/-!
# Directive lines and the grammar

The readers of what stands behind the word of a directive agree with the grammar.
-/

namespace LineTemplate

namespace Reader

def never (_ : Token.Kind) : Bool := false

def always (_ : Token.Kind) : Bool := true

theorem stops_never (rest : List Token) : Stops never rest := fun _ _ => rfl

theorem stops_always {rest : List Token} (h : Stops always rest) : rest = [] := by
  cases rest with
  | nil => rfl
  | cons t more => cases stops_cons.1 h

theorem reads_nothing : Reads nothing (fun _ ts => ts = []) never := by
  refine ⟨fun ts => gives_return rfl, fun h _ => ?_⟩
  rw [h]
  rfl

theorem reads_binding (expected : Expectation) : Reads (binding expected) Binding.Yields never := by
  refine ⟨fun ts => ?_, fun {b used rest} h _ => ?_⟩
  · refine (gives_ofKind .identifier expected ts).bind fun t used rest _ ht => gives_return ?_
    obtain ⟨rfl, hk⟩ := ht
    exact .mk hk
  · cases h with
    | mk hk =>
      simp only [List.cons_append, List.nil_append, binding, ofKind_cons hk, bind, Except.bind]
      rfl

theorem reads_index? : Reads index? Loop.YieldsIndex isComma := by
  refine ⟨fun ts => ?_, fun {b used rest} h hs => ?_⟩
  · cases ts with
    | nil => exact gives_return .none
    | cons t rest =>
      rw [index?]
      split
      · next hc =>
        refine .cons (((reads_binding .indexName).gives rest).bind fun b used left _ hb =>
          gives_return ?_)
        rw [List.append_nil]
        exact .some hc hb
      · exact gives_return .none
  · cases h with
    | none =>
      cases rest with
      | nil => rfl
      | cons t more =>
        have ht := stops_cons.1 hs
        simp only [isComma, decide_eq_false_iff_not] at ht
        simp only [List.nil_append, index?, ht, if_false]
    | some hc hb =>
      have hread := (reads_binding .indexName).complete hb (stops_never rest)
      simp only [List.cons_append, index?, hc, if_true, hread, bind, Except.bind]
      rfl

theorem gives_word (w : String) (expected : Expectation) (ts : List Token) :
    Gives ts (fun _ used => ∃ t : Token, used = [t] ∧ t.kind = .identifier ∧ t.literal = w)
      (word w expected ts) := by
  cases ts with
  | nil => exact gives_refuse expected (List.Subset.refl _)
  | cons t rest =>
    rw [word]
    split
    · next h => exact .ok rfl ⟨t, rfl, h⟩
    · exact gives_refuse expected (List.Subset.refl _)

/-! ### Loops -/

/-- What a word says about the options of a loop: the option that it names, as far as it is set,
and how it is set. -/
def slot (l : Loop) (k : Token) : Option (Option String × (String → Loop)) :=
  if k.kind ≠ .identifier then none
  else if k.literal = "delimiter" then
    some (l.delimiter, fun s => { l with delimiter := some s })
  else if k.literal = "open" then some (l.opening, fun s => { l with opening := some s })
  else if k.literal = "close" then some (l.closing, fun s => { l with closing := some s })
  else none

theorem options_cons (l : Loop) (k : Token) (ts : List Token) :
    options l (k :: ts) =
      match slot l k with
      | none => refuse .loopOption (k :: ts)
      | some (some _, _) => .error ⟨.duplicateOption k.literal, some k.pos⟩
      | some (none, set) =>
        match ts with
        | [] => refuse .string []
        | v :: rest =>
          if v.kind = .string then options (set v.literal) rest
          else refuse .string (v :: rest) := by
  rw [options.eq_def]
  rfl

theorem yields_of_slot {l : Loop} {k v : Token} {set : String → Loop} {ts : List Token}
    (hs : slot l k = some (none, set)) (hl : l.Yields ts) (hv : v.kind = .string) :
    (set v.literal).Yields (ts ++ [k, v]) := by
  unfold slot at hs
  split at hs
  · cases hs
  · next hk =>
    have hk := Classical.not_not.1 hk
    split at hs
    · next hw =>
      simp only [Option.some.injEq, Prod.mk.injEq] at hs
      rw [← hs.2]
      exact .delimiter hl hs.1 hk hw hv
    · split at hs
      · next hw =>
        simp only [Option.some.injEq, Prod.mk.injEq] at hs
        rw [← hs.2]
        exact .opening hl hs.1 hk hw hv
      · split at hs
        · next hw =>
          simp only [Option.some.injEq, Prod.mk.injEq] at hs
          rw [← hs.2]
          exact .closing hl hs.1 hk hw hv
        · cases hs

theorem gives_options : ∀ (ts : List Token) (l : Loop) (before : List Token), l.Yields before →
    Gives ts (fun l' used => l'.Yields (before ++ used)) (options l ts)
  | [], l, before, hl => gives_return (by rw [List.append_nil]; exact hl)
  | k :: ts, l, before, hl => by
    rw [options_cons]
    split
    · exact gives_refuse .loopOption (List.Subset.refl _)
    · next hs =>
      have hk : k.kind = .identifier := by
        unfold slot at hs
        split at hs
        · cases hs
        · next hk => exact Classical.not_not.1 hk
      exact .error (.word List.mem_cons_self ⟨hk, rfl⟩)
    · next set hs =>
      cases ts with
      | nil => exact gives_refuse .string (List.nil_subset _)
      | cons v rest =>
        refine .cons ?_
        simp only
        split
        · next hv =>
          have hg := gives_options rest (set v.literal) (before ++ [k, v]) (yields_of_slot hs hl hv)
          refine .cons (hg.mono fun l' used hl' => ?_)
          rw [List.append_assoc] at hl'
          exact hl'
        · exact gives_refuse .string (List.Subset.refl _)

theorem loop_option {l : Loop} {k v : Token} {set : String → Loop} {ts rest : List Token}
    (h : loop (ts ++ k :: v :: rest) = options l (k :: v :: rest))
    (hs : slot l k = some (none, set)) (hv : v.kind = .string) :
    loop (ts ++ [k, v] ++ rest) = options (set v.literal) rest := by
  rw [List.append_assoc]
  simp only [List.cons_append, List.nil_append]
  rw [h, options_cons, hs]
  simp only [hv, if_true]

theorem loop_append {l : Loop} {used rest : List Token} (h : l.Yields used)
    (hs : Stops isTail rest) : loop (used ++ rest) = options l rest := by
  -- The options that have been read are in `l`, so the next one finds its place taken or free.
  induction h generalizing rest with
  | @bare item index of source ts us vs hitem hindex hk hw hsource =>
    have hfirst := (reads_binding .itemName).complete hitem (stops_never (us ++ of :: (vs ++ rest)))
    have hsecond := reads_index?.complete hindex
      (stops_cons.2 (by rw [hk]; rfl) : Stops isComma (of :: (vs ++ rest)))
    have hword : word "of" .sourceWord (of :: (vs ++ rest)) = .ok ((), vs ++ rest) := by
      simp only [word, hk, hw, and_self, if_true]
    have hlast := reads_operand.complete hsource hs
    simp only [List.append_assoc, List.cons_append, loop, hfirst, hsecond, hword, hlast, bind,
      Except.bind]
  | @delimiter l k v ts _ hfree hk hw hv ih =>
    have hslot : slot l k = some (none, fun s => { l with delimiter := some s }) := by
      simp [slot, hk, hw, hfree]
    exact loop_option (ih (stops_cons.2 (by rw [hk]; rfl))) hslot hv
  | @opening l k v ts _ hfree hk hw hv ih =>
    have hslot : slot l k = some (none, fun s => { l with opening := some s }) := by
      simp [slot, hk, hw, hfree]
    exact loop_option (ih (stops_cons.2 (by rw [hk]; rfl))) hslot hv
  | @closing l k v ts _ hfree hk hw hv ih =>
    have hslot : slot l k = some (none, fun s => { l with closing := some s }) := by
      simp [slot, hk, hw, hfree]
    exact loop_option (ih (stops_cons.2 (by rw [hk]; rfl))) hslot hv

theorem reads_loop : Reads loop Loop.Yields always := by
  refine ⟨fun ts => ?_, fun {l used rest} h hs => ?_⟩
  · refine ((reads_binding .itemName).gives ts).bind fun item used rest _ hitem => ?_
    refine (reads_index?.gives rest).bind fun index us left _ hindex => ?_
    refine (gives_word "of" .sourceWord left).bind fun _ ws after _ hof => ?_
    refine (reads_operand.gives after).bind fun source vs last _ hsource => ?_
    obtain ⟨of, rfl, hk, hw⟩ := hof
    have hg := gives_options last _ _ (.bare hitem hindex hk hw hsource)
    refine hg.mono fun l us' hl => ?_
    simp only [List.append_assoc, List.cons_append, List.nil_append] at hl ⊢
    exact hl
  · rw [stops_always hs, loop_append h stops_nil]
    rfl

/-! ### Guards, checks and definitions -/

def isString (k : Token.Kind) : Bool := k = .string

theorem reads_message? : Reads message? Block.YieldsMessage isString := by
  refine ⟨fun ts => ?_, fun {m used rest} h hs => ?_⟩
  · cases ts with
    | nil => exact gives_return .none
    | cons t rest =>
      rw [message?]
      split
      · next hk => exact .ok rfl (.some hk)
      · exact gives_return .none
  · cases h with
    | none =>
      cases rest with
      | nil => rfl
      | cons t more =>
        have ht := stops_cons.1 hs
        simp only [isString, decide_eq_false_iff_not] at ht
        simp only [List.nil_append, message?, ht, if_false]
    | some hk => simp only [List.cons_append, List.nil_append, message?, hk, if_true]

theorem reads_check : Reads check Block.YieldsCheck never := by
  refine ⟨fun ts => ?_, fun {m used rest} h _ => ?_⟩
  · refine (reads_expression.gives ts).bind fun test used rest _ htest => ?_
    refine (gives_ofKind .throw .messageWord rest).bind fun w us left _ hw => ?_
    refine (gives_ofKind .string .message left).bind fun m vs last _ hm => gives_return ?_
    obtain ⟨rfl, hw⟩ := hw
    obtain ⟨rfl, hm⟩ := hm
    exact .mk htest hw hm
  · cases h with
    | @mk test w m ts htest hw hm =>
      have hread := reads_expression.complete htest
        (stops_cons.2 (by rw [hw]; rfl) : Stops (goesOnAt .disjunction) (w :: m :: rest))
      simp only [List.append_assoc, List.cons_append, List.nil_append, check, hread,
        ofKind_cons hw, ofKind_cons hm, bind, Except.bind]
      rfl

theorem reads_definition :
    Reads definition Block.YieldsDefinition (goesOnAt .disjunction) := by
  refine ⟨fun ts => ?_, fun {m used rest} h hs => ?_⟩
  · refine ((reads_binding .variableName).gives ts).bind fun name used rest _ hname => ?_
    refine (gives_ofKind (.comparison .eq) .definition rest).bind fun e us left _ he => ?_
    refine (reads_expression.gives left).bind fun value vs last _ hvalue => gives_return ?_
    obtain ⟨rfl, he⟩ := he
    rw [List.append_nil]
    exact .mk hname he hvalue
  · cases h with
    | @mk name e value ts us hname he hvalue =>
      have hread := (reads_binding .variableName).complete hname (stops_never (e :: (us ++ rest)))
      simp only [List.append_assoc, List.cons_append, definition, hread, ofKind_cons he,
        reads_expression.complete hvalue hs, bind, Except.bind]
      rfl

end Reader

end LineTemplate
