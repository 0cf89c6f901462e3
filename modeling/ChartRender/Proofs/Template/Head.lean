import ChartRender.Template.Parser
/-!
# The name that an expression starts with

The parser treats a name at the start of an expression like any other, unless it is the word of a
literal or of the negation (`headless`). So the expression with another name in that place is the
same but for the name (`parseTokens_head`). The proof goes up through the layers of operators: each reads
the name first and goes on in a way that a change of the name carries through (`ReadsHead`).

Key definitions: `Expr.withHead`, `headless`, `Parser.Carries`, `Parser.ReadsHead`.
Key theorems: `readsHead_expression`, `parseTokens_head`.
-/

namespace ChartRender.Template

/-- The expression with another name in the place of the one that it starts with. -/
def Expr.withHead (head : String) : Expr → Expr
  | .var line _ => .var line head
  | .attr e name => .attr (e.withHead head) name
  | .item e key => .item (e.withHead head) key
  | .not e => .not (e.withHead head)
  | .binary op a b => .binary op (a.withHead head) b
  | .and a b => .and (a.withHead head) b
  | .or a b => .or (a.withHead head) b
  | .choose c yes no => .choose c (yes.withHead head) no
  | .filter e name args => .filter (e.withHead head) name args
  | .test e name args => .test (e.withHead head) name args
  | .call line _ args => .call line head args
  | .callMethod e name args => .callMethod (e.withHead head) name args
  | .callValue e args => .callValue (e.withHead head) args
  | e => e

/-- The words that mean something else at the start of an expression than what they are the name
of. -/
def headless : List String := ["true", "True", "false", "False", "none", "None", "not"]

namespace Parser

/-! ### Readers that carry a change through -/

/-- The result for an expression that starts with another name. -/
def withHead (head : String) (r : Except Rejection (Expr × List Placed)) :
    Except Rejection (Expr × List Placed) := r.map fun p => (p.1.withHead head, p.2)

/-- A continuation that carries a change of the name through. -/
def Carries (k : Expr → Parser Expr) : Prop :=
  ∀ head e ts, k (e.withHead head) ts = withHead head (k e ts)

/-- Two readers whose results differ in the name only. -/
def Renamed (head : String) (p p' : Parser Expr) : Prop := ∀ ts, p' ts = withHead head (p ts)

variable {head : String}

theorem Renamed.pure (e : Expr) : Renamed head (pure e) (pure (e.withHead head)) := fun _ => rfl

theorem Renamed.bind {α : Type} (p : Parser α) {k k' : α → Parser Expr}
    (h : ∀ a, Renamed head (k a) (k' a)) : Renamed head (p >>= k) (p >>= k') := by
  intro ts
  change (p ts >>= fun r => k' r.1 r.2) = withHead head (p ts >>= fun r => k r.1 r.2)
  cases p ts with
  | error r => rfl
  | ok r => exact h r.1 r.2

theorem Renamed.ite (c : Prop) [Decidable c] {p p' q q' : Parser Expr} (h : Renamed head p p')
    (h' : Renamed head q q') : Renamed head (if c then p else q) (if c then p' else q') := by
  split
  · exact h
  · exact h'

theorem Carries.renamed {k : Expr → Parser Expr} (h : Carries k) (e : Expr) :
    Renamed head (k e) (k (e.withHead head)) := h head e

theorem Carries.of_renamed {k : Expr → Parser Expr}
    (h : ∀ head e, Renamed head (k e) (k (e.withHead head))) : Carries k := h

theorem Carries.bind {k l : Expr → Parser Expr} (hk : Carries k) (hl : Carries l) :
    Carries fun e => k e >>= l := by
  intro head e ts
  change (k (e.withHead head) ts >>= fun r => l r.1 r.2) = withHead head (k e ts >>= fun r => l r.1 r.2)
  rw [hk]
  cases k e ts with
  | error r => rfl
  | ok r => exact hl head r.1 r.2

theorem carries_bound {k : Nat → Expr → Parser Expr} (h : ∀ fuel, Carries (k fuel)) :
    Carries (fun e => do k (← bound) e) :=
  .of_renamed fun _ e => .bind _ fun fuel => (h fuel).renamed e

/-! ### What stands behind an operand -/

theorem withHead_callOf (line : Nat) (args : Arguments) (e : Expr) :
    callOf line args (e.withHead head) = (callOf line args e).withHead head := by
  cases e <;> rfl

theorem carries_postfixes (expr : Parser Expr) (line : Nat) : ∀ fuel, Carries (postfixes expr line fuel)
  | 0 => .of_renamed fun _ e => .pure e
  | fuel + 1 => .of_renamed fun head e => by
    have ih := carries_postfixes expr line fuel
    refine .bind _ fun point => .ite _ (.bind _ fun name => ih.renamed (.attr e name)) ?_
    refine .bind _ fun bracket => .ite _ (.bind _ fun key => .bind _ fun _ =>
      ih.renamed (.item e key)) ?_
    refine .bind _ fun opening => .ite _ (.bind _ fun args => ?_) (.pure e)
    rw [withHead_callOf]
    exact ih.renamed _

theorem carries_filters (expr : Parser Expr) : ∀ fuel, Carries (filters expr fuel)
  | 0 => .of_renamed fun _ e => .pure e
  | fuel + 1 => .of_renamed fun head e => by
    have ih := carries_filters expr fuel
    refine .bind _ fun bar => .ite _ (.bind _ fun name => .bind _ fun args =>
      ih.renamed (.filter e name _)) ?_
    refine .bind _ fun word => .ite _ (.bind _ fun negated => .bind _ fun name =>
      .bind _ fun args => ?_) (.pure e)
    have hj : ∀ args, Renamed head
        (filters expr fuel (if negated then .not (.test e name args) else .test e name args))
        (filters expr fuel
          (if negated then .not (.test (e.withHead head) name args)
            else .test (e.withHead head) name args)) := by
      intro args
      cases negated with
      | false => exact ih.renamed (.test e name args)
      | true => exact ih.renamed (.not (.test e name args))
    cases args with
    | some args => exact .bind _ hj
    | none => exact .bind _ fun t => .ite _ (.bind _ fun a => .bind _ hj) (.bind _ hj)

theorem carries_leftAssoc {operator? : Token → Option (Expr → Expr → Expr)}
    (h : ∀ t build, operator? t = some build → ∀ head a b,
      build (Expr.withHead head a) b = (build a b).withHead head) (operand : Parser Expr) :
    ∀ fuel, Carries (leftAssoc operator? operand fuel)
  | 0 => .of_renamed fun _ e => .pure e
  | fuel + 1 => .of_renamed fun head e => by
    refine .bind _ fun t => ?_
    cases ho : operator? t.token with
    | none => exact .pure e
    | some build =>
      refine .bind _ fun _ => .bind _ fun right => ?_
      rw [h t.token build ho]
      exact (carries_leftAssoc h operand fuel).renamed (build e right)

/-! ### Readers of an expression that starts with a name -/

/-- A reader that first takes a name, on a line, and goes on in a way that a change of the name
carries through. -/
def ReadsHead (line : Nat) (p : Parser Expr) : Prop :=
  ∃ k, Carries k ∧ ∀ name ∉ headless, ∀ ts, p (⟨.word name, line⟩ :: ts) = k (.var line name) ts

variable {line : Nat}

theorem ReadsHead.bind {p : Parser Expr} {l : Expr → Parser Expr} (h : ReadsHead line p)
    (hl : Carries l) : ReadsHead line (p >>= l) := by
  obtain ⟨k, hk, hp⟩ := h
  refine ⟨fun e => k e >>= l, hk.bind hl, fun name hn ts => ?_⟩
  change (p (⟨.word name, line⟩ :: ts) >>= fun r => l r.1 r.2) = (k (.var line name) >>= l) ts
  rw [hp name hn]
  rfl

/-- The result for a name is that for any other, but for the name. -/
theorem ReadsHead.eq {p : Parser Expr} (h : ReadsHead line p) {name name' : String}
    (hn : name ∉ headless) (hn' : name' ∉ headless) (ts : List Placed) :
    p (⟨.word name', line⟩ :: ts) = withHead name' (p (⟨.word name, line⟩ :: ts)) := by
  obtain ⟨k, hk, hp⟩ := h
  rw [hp name hn, hp name' hn']
  exact hk name' (.var line name) ts

/-- A name is taken where an operand is read. -/
theorem primary_name (expr : Parser Expr) {name : String} (hn : name ∉ headless)
    (ts : List Placed) :
    primary expr (⟨.word name, line⟩ :: ts) = .ok (.var line name, ts) := by
  have hnext : next (⟨.word name, line⟩ :: ts) = .ok (⟨.word name, line⟩, ts) := rfl
  simp only [headless, List.mem_cons, List.not_mem_nil, or_false, not_or] at hn
  simp only [primary, bind, StateT.bind, hnext, Except.bind]
  generalize ht : Token.word name = t
  split
  case h_7 =>
    cases ht
    rfl
  case h_14 hword _ _ _ _ _ _ => exact (hword name ht.symm).elim
  all_goals cases ht <;> simp at hn

theorem signed_name (expr : Parser Expr) {name : String} (hn : name ∉ headless)
    (ts : List Placed) : ∀ fuel,
    Template.signed expr fuel (⟨.word name, line⟩ :: ts) = .ok (.var line name, ts)
  | 0 => primary_name expr hn ts
  | _ + 1 => primary_name expr hn ts

theorem readsHead_operand (expr : Parser Expr) : ReadsHead line (operand expr) := by
  refine ⟨fun e => do postfixes expr line (← bound) e,
    carries_bound fun fuel => carries_postfixes expr line fuel, fun name hn ts => ?_⟩
  change (signed expr (ts.length + 1) (⟨.word name, line⟩ :: ts) >>= fun r =>
    (do postfixes expr line (← bound) r.1 : Parser Expr) r.2) = _
  rw [signed_name expr hn]
  rfl

theorem readsHead_filtered (expr : Parser Expr) : ReadsHead line (filtered expr) :=
  (readsHead_operand expr).bind (carries_bound fun fuel => carries_filters expr fuel)

/-- An operator whose left operand carries the name. -/
def KeepsHead (operator? : Token → Option (Expr → Expr → Expr)) : Prop :=
  ∀ t build, operator? t = some build → ∀ head a b,
    build (Expr.withHead head a) b = (build a b).withHead head

theorem readsHead_operands {operator? : Token → Option (Expr → Expr → Expr)} {operand : Parser Expr}
    (ho : KeepsHead operator?) (h : ReadsHead line operand) :
    ReadsHead line (operands operator? operand) :=
  h.bind (carries_bound fun fuel => carries_leftAssoc ho operand fuel)

theorem keepsHead_product : KeepsHead productOperator? := by
  intro t build h head a b
  unfold productOperator? at h
  split at h <;> cases h
  rfl

theorem keepsHead_concat : KeepsHead concatOperator? := by
  intro t build h head a b
  unfold concatOperator? at h
  split at h <;> cases h
  rfl

theorem keepsHead_sum : KeepsHead sumOperator? := by
  intro t build h head a b
  unfold sumOperator? at h
  split at h <;> cases h <;> rfl

theorem keepsHead_comparison : KeepsHead comparisonOperator? := by
  intro t build h head a b
  unfold comparisonOperator? at h
  split at h <;> cases h <;> rfl

theorem keepsHead_and : KeepsHead andOperator? := by
  intro t build h head a b
  unfold andOperator? at h
  split at h <;> cases h
  rfl

theorem keepsHead_or : KeepsHead orOperator? := by
  intro t build h head a b
  unfold orOperator? at h
  split at h <;> cases h
  rfl

theorem readsHead_comparison (expr : Parser Expr) : ReadsHead line (comparison expr) :=
  readsHead_operands keepsHead_comparison <| readsHead_operands keepsHead_sum <|
    readsHead_operands keepsHead_concat <| readsHead_operands keepsHead_product <|
      readsHead_filtered expr

/-- No negation stands in front of a name. -/
theorem readsHead_negation (expr : Parser Expr) :
    ReadsHead line (do negation expr (← bound)) := by
  obtain ⟨k, hk, hp⟩ : ReadsHead line (comparison expr) := readsHead_comparison expr
  refine ⟨k, hk, fun name hn ts => ?_⟩
  have hnot : name ≠ "not" := fun h => hn (h ▸ by decide)
  have hskip : skip (.word "not") (⟨.word name, line⟩ :: ts) =
      .ok (false, ⟨.word name, line⟩ :: ts) := by
    have hpeek : peek (⟨.word name, line⟩ :: ts) =
        .ok (⟨.word name, line⟩, ⟨.word name, line⟩ :: ts) := rfl
    simp only [skip, bind, StateT.bind, hpeek, Except.bind, Token.word.injEq, hnot, if_false]
    rfl
  change (skip (.word "not") (⟨.word name, line⟩ :: ts) >>= fun r =>
    (if r.1 then (do return .not (← negation expr ts.length)) else comparison expr : Parser Expr) r.2) = _
  rw [hskip]
  exact hp name hn ts

theorem readsHead_disjunction (expr : Parser Expr) : ReadsHead line (disjunction expr) :=
  readsHead_operands keepsHead_or <| readsHead_operands keepsHead_and <| readsHead_negation expr

/-- **An expression that starts with a name is read alike for every name.** -/
theorem readsHead_expression (fuel : Nat) : ReadsHead line (expression (fuel + 1)) := by
  refine (readsHead_disjunction (expression fuel)).bind ?_
  refine .of_renamed fun head e => .bind _ fun choice => .ite _ ?_ (.pure e)
  exact .bind _ fun condition => .bind _ fun _ => .bind _ fun no => .pure (.choose condition e no)

/-- The result of reading an expression that starts with a name is that for any other name, but for
the name. -/
theorem expr_head {name name' : String} (hn : name ∉ headless) (hn' : name' ∉ headless)
    (line : Nat) (ts : List Placed) :
    expr (⟨.word name', line⟩ :: ts) = withHead name' (expr (⟨.word name, line⟩ :: ts)) :=
  (readsHead_expression ts.length).eq hn hn' ts

end Parser

open ChartRender.Template.Parser

/-- A block that starts with an expression goes on behind it. -/
theorem block_exprStart (fuel : Nat) (ends : List String) (line : Nat) (ts : List Placed) :
    block (fuel + 1) ends (⟨.exprStart, line⟩ :: ts) = (expr ts >>= fun r =>
      expect .exprEnd r.2 >>= fun u => block fuel ends u.2 >>= fun b =>
        .ok (.emit r.1 :: b.1, b.2)) := by
  rw [block]
  rfl

/-- **A template that is one expression** reads alike for every name that the expression starts
with. -/
theorem parseTokens_head {name name' : String} (hn : name ∉ headless) (hn' : name' ∉ headless)
    {line : Nat} {ts : List Placed} {e : Expr}
    (h : parseTokens (⟨.exprStart, line⟩ :: ⟨.word name, line⟩ :: ts) = .ok [.emit e]) :
    parseTokens (⟨.exprStart, line⟩ :: ⟨.word name', line⟩ :: ts) =
      .ok [.emit (e.withHead name')] := by
  have hexpr := expr_head hn hn' line ts
  change (block (2 * ts.length + 3 + 1) [] (_ :: _)).map _ = _ at h
  change (block (2 * ts.length + 3 + 1) [] (_ :: _)).map _ = _
  rw [block_exprStart] at h ⊢
  rw [hexpr]
  -- what follows the expression is read alike, as it does not depend on the name
  cases hr : expr (⟨.word name, line⟩ :: ts) with
  | error r => simp [hr, bind, Except.bind, Except.map] at h
  | ok r =>
    cases hu : expect .exprEnd r.2 with
    | error _ => simp [hr, hu, bind, Except.bind, Except.map] at h
    | ok u =>
      cases hb : block (2 * ts.length + 3) [] u.2 with
      | error _ => simp [hr, hu, hb, bind, Except.bind, Except.map] at h
      | ok b =>
        simp only [hr, hu, hb, bind, Except.bind, Except.map, Except.ok.injEq, List.cons.injEq,
          Stmt.emit.injEq] at h
        obtain ⟨rfl, hnil⟩ := h
        simp [hu, hb, hnil, withHead, bind, Except.bind, Except.map]

end ChartRender.Template
