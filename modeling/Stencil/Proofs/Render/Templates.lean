import Stencil.Blocks.Render
import Stencil.Proofs.Render.Reports
import Stencil.Statement.Render

/-! # Reports of templates

Whatever a template of either syntax is rendered over, all reports come from the helpers that it
calls.
-/

namespace Stencil

namespace Statement

variable {args : PendingArguments} {filters : List (String × PendingArguments)}

theorem ofHelpers_settle (h : ∀ a ∈ args, OfHelpers a.2) : OfHelpers (settle args) := by
  induction args with
  | nil => exact .pure _
  | cons a args ih =>
    obtain ⟨ha, hargs⟩ := List.forall_mem_cons.mp h
    exact ha.bind fun _ => (ih hargs).bind fun _ => .pure _

theorem ofHelpers_callFunction (host : Host) (name : String) (h : ∀ a ∈ args, OfHelpers a.2) :
    OfHelpers (callFunction host name args) := by
  unfold callFunction
  split
  next hf => exact (ofHelpers_settle h).bind fun _ => .call hf _
  · refine (ofHelpers_settle h).bind fun _ => ?_
    split
    · exact .pure _
    · exact .throw _

theorem ofHelpers_applyFilter (v : Json) (name : String) (h : ∀ a ∈ args, OfHelpers a.2) :
    OfHelpers (applyFilter v name args) := by
  unfold applyFilter
  split
  next hf => exact (ofHelpers_settle h).bind fun _ => .call hf _
  · refine (ofHelpers_settle h).bind fun _ => ?_
    split
    · exact .pure _
    · exact .throw _

theorem ofHelpers_applyFilters (v : Json) (h : ∀ f ∈ filters, ∀ a ∈ f.2, OfHelpers a.2) :
    OfHelpers (applyFilters v filters) := by
  induction filters generalizing v with
  | nil => exact .pure v
  | cons f filters ih =>
    obtain ⟨name, args⟩ := f
    obtain ⟨hf, hfilters⟩ := List.forall_mem_cons.mp h
    unfold applyFilters
    split
    · exact ih v hfilters
    · exact (ofHelpers_applyFilter v name hf).bind fun v => ih v hfilters

theorem ofHelpers_of_lookup {name : String} (h : ∀ a ∈ args, OfHelpers a.2) :
    OfHelpers ((args.lookup name).getD (throw .other)) := by
  cases hl : args.lookup name with
  | none => exact .throw _
  | some x =>
    obtain ⟨l, r, rfl, -⟩ := List.lookup_eq_some_iff.mp hl
    exact h (name, x) (List.mem_append_right l List.mem_cons_self)

theorem ofHelpers_of_default? {x : Rendering Json} (h : ∀ f ∈ filters, ∀ a ∈ f.2, OfHelpers a.2)
    (hd : default? filters = some x) : OfHelpers x := by
  unfold default? at hd
  split at hd
  · obtain rfl := Option.some.inj hd
    exact ofHelpers_of_lookup (h _ List.mem_cons_self)
  · cases hd

theorem ofHelpers_pathValue (found : Option Json) (negated : Bool)
    (h : ∀ f ∈ filters, ∀ a ∈ f.2, OfHelpers a.2) :
    OfHelpers (pathValue found negated filters) := by
  unfold pathValue
  refine .bind ?_ fun v => ?_
  · split
    · split
      next hd => exact (ofHelpers_of_default? h hd).map _
      · split
        · exact .throw _
        · exact .pure _
    · split
      next hd => exact (ofHelpers_of_default? h hd).map _
      · split
        · exact .throw _
        · exact .pure _
    · exact .pure _
  · split
    · exact .pure _
    · exact (ofHelpers_applyFilters _ h).bind fun _ => .pure _

structure Meaning.IsModest (m : Meaning) : Prop where
  value : OfHelpers m.value
  holds : OfHelpers m.holds
  number : OfHelpers m.number

namespace Meaning.IsModest

theorem ofValue {value : Rendering Json} (h : OfHelpers value) : (ofValue value).IsModest where
  value := h
  holds := h.bind fun v => by split <;> first | exact .pure _ | exact .throw _
  number := h.bind fun v => .lift _

theorem ofCondition {holds : Rendering (Option Bool)} (h : OfHelpers holds) :
    (ofCondition holds).IsModest where
  value := h.bind fun _ => .pure _
  holds := h
  number := .throw _

theorem ofNumber {number : Rendering (Option Json)} (h : OfHelpers number) :
    (ofNumber number).IsModest where
  value := (h.tryCatch fun _ => .throw _).bind fun v => by split <;> exact .pure _
  holds := h.bind fun _ => .pure _
  number := h

theorem ofText {text : Rendering String} (h : OfHelpers text) : (ofText text).IsModest where
  value := h.map _
  holds := h.bind fun _ => .pure _
  number := .throw _

theorem qualify {m : Meaning} (found : Option Json) (t : Term) (hm : m.IsModest) (negated : Bool)
    (h : ∀ f ∈ filters, ∀ a ∈ f.2, OfHelpers a.2) :
    (qualify found t m negated filters).IsModest := by
  have hfinish (v : Json) : OfHelpers (do
      let v ← applyFilters v filters
      pure (if negated then .bool (!isTruthy v) else v) : Rendering Json) :=
    (ofHelpers_applyFilters v h).bind fun _ => .pure _
  have hvalue : OfHelpers (Meaning.qualify found t m negated filters).value := by
    cases t with
    | path p => exact ofHelpers_pathValue found negated h
    | compare _ _ _ | and _ _ | or _ _ =>
      refine OfHelpers.bind (hm.holds.bind fun b => ?_) fun _ => hfinish _
      split <;> exact .pure _
    | _ => exact hm.value.bind hfinish
  constructor
  · exact hvalue
  · cases t with
    | path p => exact (hvalue.bind fun _ => .pure _).tryCatch fun _ => .pure _
    | concat parts =>
      refine hvalue.bind fun v => ?_
      split
      · exact .pure _
      · exact .throw _
    | _ =>
      refine OfHelpers.map (hm.holds.bind fun b => ?_) _
      split <;> exact .pure _
  · unfold Meaning.qualify
    dsimp only
    split
    · exact hm.number
    · exact hvalue.bind fun _ => .lift _

end Meaning.IsModest

section Expressions

variable (s : Scope)

theorem ofHelpers_scopeValue (p : Path) : OfHelpers (s.value p) := by
  unfold Scope.value
  split
  · exact .pure _
  · exact .throw _

-- The induction is the recursion of the meanings: an expression asks its term and the arguments of
-- its filters, and a term its operands.
mutual

theorem Expr.isModest_meaning : (e : Expr) → (e.meaning s).IsModest
  | .mk t negated filters =>
    .qualify _ t (Term.isModest_meaning t) negated (ofHelpers_calls filters)

theorem Term.isModest_meaning : (t : Term) → (t.meaning s).IsModest
  | .text t => .ofText (.pure t)
  | .int n => .ofNumber (.pure _)
  | .float x => .ofNumber (.pure _)
  | .bool b =>
    have h : (Meaning.ofValue (pure (.bool b))).IsModest := .ofValue (.pure _)
    ⟨h.value, h.holds, .throw _⟩
  | .path p => .ofValue (ofHelpers_scopeValue s p)
  | .call (.mk name args) =>
    .ofValue (ofHelpers_callFunction s.host name (ofHelpers_arguments args))
  | .array items => ⟨(ofHelpers_values items).map _, .throw _, .throw _⟩
  | .concat parts => .ofText ((ofHelpers_joined parts).map _)
  | .math op left right =>
    have hl := Expr.isModest_meaning left
    have hr := Expr.isModest_meaning right
    .ofNumber <| hl.number.bind fun l => hr.number.bind fun r => by
      split
      · exact .lift _
      · exact .pure _
  | .compare op left right =>
    have hl := Expr.isModest_meaning left
    have hr := Expr.isModest_meaning right
    .ofCondition <| by
      split
      · exact hl.value.bind fun _ => hr.value.bind fun _ => .pure _
      · exact hl.value.bind fun _ => hr.value.bind fun _ => .pure _
      · exact hl.number.bind fun _ => hr.number.bind fun _ => .lift _
  | .and left right =>
    have hl := Expr.isModest_meaning left
    have hr := Expr.isModest_meaning right
    .ofCondition <| hl.holds.bind fun _ => by
      split
      · exact hr.holds
      · exact .pure _
  | .or left right =>
    have hl := Expr.isModest_meaning left
    have hr := Expr.isModest_meaning right
    .ofCondition <| hl.holds.bind fun _ => by
      split
      · exact .pure _
      · exact hr.holds
  | .contains negated item container =>
    have hi := Expr.isModest_meaning item
    have hc := Expr.isModest_meaning container
    .ofCondition <| hi.value.bind fun _ => hc.value.bind fun _ => .bind (.lift _) fun _ => .pure _
  | .test negated p name args =>
    have ha := ofHelpers_values args
    .ofCondition <| by
      split
      · exact .throw _
      · refine ha.bind fun _ => ?_
        split
        · exact .pure _
        · exact .throw _
  | .macroCall _ => .ofValue (.throw _)

theorem ofHelpers_values : (es : List Expr) → OfHelpers (values s es)
  | [] => .pure _
  | e :: es =>
    (Expr.isModest_meaning e).value.bind fun _ => (ofHelpers_values es).bind fun _ => .pure _

theorem ofHelpers_arguments : (args : List (String × Expr)) → ∀ a ∈ arguments s args, OfHelpers a.2
  | [] => List.forall_mem_nil _
  | (_, e) :: rest =>
    List.forall_mem_cons.mpr ⟨(Expr.isModest_meaning e).value, ofHelpers_arguments rest⟩

theorem ofHelpers_joined : (ts : List Term) → OfHelpers (joined s ts)
  | [] => .pure _
  | t :: ts =>
    (Term.isModest_meaning t).value.bind fun _ => .bind (.lift _) fun _ =>
      (ofHelpers_joined ts).bind fun _ => .pure _

theorem ofHelpers_calls : (cs : List Call) → ∀ f ∈ calls s cs, ∀ a ∈ f.2, OfHelpers a.2
  | [] => List.forall_mem_nil _
  | .mk _ args :: rest => List.forall_mem_cons.mpr ⟨ofHelpers_arguments args, ofHelpers_calls rest⟩

end

end Expressions

section Statements

variable {s : Scope} {base : Base} {p : Progress}

theorem ofHelpers_value (e : Expr) : OfHelpers (e.value s) :=
  (Expr.isModest_meaning s e).value

theorem ofHelpers_holds (e : Expr) : OfHelpers (e.holds s) :=
  (Expr.isModest_meaning s e).holds.bind fun _ => .pure _

theorem ofHelpers_raise (p : Progress) (signal : Signal) : OfHelpers (p.raise signal) := by
  unfold Progress.raise
  split
  · split
    · exact .pure _
    · exact .throw _
  · exact .throw _

theorem ofHelpers_runRounds {body : Action} (hbody : ∀ p, OfHelpers (body p))
    (keyName : Option String) (valueName : String) (count index : Nat)
    (entries : List (String × Option Json)) (p : Progress) :
    OfHelpers (runRounds keyName valueName count body index entries p) := by
  induction entries generalizing index p with
  | nil => exact .pure _
  | cons entry rest ih =>
    unfold runRounds
    refine (hbody _).bind fun p => ?_
    dsimp only
    split
    · exact .pure _
    · exact ih _ _

mutual

theorem Node.ofHelpers_run (base : Base) : (n : Node) → ∀ p, OfHelpers (n.run base p)
  | .text _, _ | .raw _ _ _, _ | .comment _, _ => .pure _
  | .output _ e, _ => (ofHelpers_value e).bind fun _ => .pure _
  | .set _ _ _ e, _ => (ofHelpers_value e).bind fun _ => .pure _
  | .ifs branches none _, p => ofHelpers_runBranches base branches _ (fun _ => .pure _) p
  | .ifs branches (some (_, body)) _, p =>
    ofHelpers_runBranches base branches _ (fun p => ofHelpers_runAll base body p) p
  | .loop _ keyName valueName container body ifEmpty _, p => by
    have hbody := ofHelpers_runAll base body
    have hempty := ofHelpers_runAll base ifEmpty
    have hentries (v : Json) : OfHelpers (match entries? keyName v with
        | none => (throw .other : Rendering Progress)
        | some [] => runAll base ifEmpty p
        | some entries =>
          runRounds keyName valueName entries.length (runAll base body) 0 entries p) := by
      split
      · exact .throw _
      · exact hempty p
      · exact ofHelpers_runRounds hbody _ _ _ _ _ _
    unfold Node.run
    split
    · exact (OfHelpers.throw _).bind fun _ => (ofHelpers_value container).bind hentries
    · exact (ofHelpers_value container).bind hentries
  | .filtered _ (.mk name args) body _, p =>
    (ofHelpers_runAll base body _).bind fun inner => by
      split
      · exact .pure _
      · exact (ofHelpers_applyFilter _ name (ofHelpers_arguments _ args)).bind fun _ => .pure _
  | .block _ body _, p => ofHelpers_runAll base body p
  | .include _ mayBeMissing, p => by
    unfold Node.run
    split
    · exact .pure _
    · exact .throw _
  | .break _, p => ofHelpers_raise p .break
  | .continue _, p => ofHelpers_raise p .continue
termination_by structural n => n

theorem ofHelpers_runAll (base : Base) : (ns : List Node) → ∀ p, OfHelpers (runAll base ns p)
  | [], _ => .pure _
  | n :: rest, p =>
    (Node.ofHelpers_run base n p).bind fun p => by
      split
      · exact .pure _
      · exact ofHelpers_runAll base rest p
termination_by structural ns => ns

theorem ofHelpers_runBranches (base : Base) : (branches : List (Trim × Expr × List Node)) →
    ∀ otherwise : Action, (∀ p, OfHelpers (otherwise p)) →
      ∀ p, OfHelpers (runBranches base branches otherwise p)
  | [], _, h, p => h p
  | (_, e, body) :: rest, otherwise, h, p =>
    (ofHelpers_holds e).bind fun b => by
      split
      · exact ofHelpers_runAll base body p
      · exact ofHelpers_runBranches base rest otherwise h p
termination_by structural branches => branches

end

end Statements

theorem ofHelpers_write (nodes : List Node) (base : Base) : OfHelpers (write nodes base) :=
  (ofHelpers_runAll base nodes {}).bind fun _ => .pure _

end Statement

namespace Blocks

theorem ofHelpers_callHelper (name : String) (args : List Argument) :
    OfHelpers (callHelper name args) := by
  unfold callHelper
  split
  next hf => exact .call hf _
  · split
    · exact .lift _
    · exact .throw _

section Values

variable (s : Scope)

mutual

theorem Param.ofHelpers_value : (p : Param) → OfHelpers (p.value s)
  | .literal _ => .pure _
  | .path _ => .lift _
  | .call c => (Call.ofHelpers_value c).map _

theorem Call.ofHelpers_value : (c : Call) → OfHelpers (c.value s)
  | .mk name params named =>
    (ofHelpers_paramValues params).bind fun args =>
      (ofHelpers_namedValues named).bind fun _ => ofHelpers_callHelper name args

theorem ofHelpers_paramValues : (ps : List Param) → OfHelpers (paramValues s ps)
  | [] => .pure _
  | p :: ps =>
    (Param.ofHelpers_value p).bind fun _ => (ofHelpers_paramValues ps).bind fun _ => .pure _

theorem ofHelpers_namedValues : (ps : List (String × Param)) → OfHelpers (namedValues s ps)
  | [] => .pure _
  | (_, p) :: rest =>
    (Param.ofHelpers_value p).bind fun _ => (ofHelpers_namedValues rest).bind fun _ => .pure _

end

theorem Shown.ofHelpers_value (shown : Shown) : OfHelpers (shown.value s) := by
  cases shown with
  | call c => exact Call.ofHelpers_value s c
  | path p =>
    rw [Shown.value]
    split
    · exact ofHelpers_callHelper _ _
    · refine (OfHelpers.lift _).bind fun v => ?_
      split
      · exact .pure _
      · exact .throw _
  | inner c =>
    refine (Call.ofHelpers_value s c).bind fun v => ?_
    dsimp only
    split
    · exact ofHelpers_callHelper _ _
    · exact .pure _

end Values

section Writers

variable {body : Writer} {otherwise : Option Writer}

theorem ofHelpers_writeEach (hbody : ∀ s, OfHelpers (body s)) (names : List String)
    (ofKey : Json → List (String × Json)) (count index : Nat) (entries : List (Json × Json))
    (s : Scope) : OfHelpers (writeEach names ofKey count body index entries s) := by
  induction entries generalizing index with
  | nil => exact .pure _
  | cons entry rest ih => exact (hbody _).bind fun _ => (ih _).bind fun _ => .pure _

theorem ofHelpers_writeOtherwise (h : ∀ w ∈ otherwise, ∀ s, OfHelpers (w s)) (s : Scope) :
    OfHelpers (writeOtherwise otherwise s) := by
  cases otherwise with
  | none => exact .throw _
  | some w => exact h w rfl s

theorem ofHelpers_writeIf (hbody : ∀ s, OfHelpers (body s))
    (h : ∀ w ∈ otherwise, ∀ s, OfHelpers (w s)) (condition : Bool) (s : Scope) :
    OfHelpers (writeIf condition body otherwise s) := by
  unfold writeIf
  split
  · exact hbody s
  · cases otherwise with
    | none => exact .pure _
    | some w => exact h w rfl s

theorem ofHelpers_getD (h : ∀ w ∈ otherwise, ∀ s, OfHelpers (w s)) (s : Scope) :
    OfHelpers ((otherwise.getD fun _ => pure []) s) := by
  cases otherwise with
  | none => exact .pure _
  | some w => exact h w rfl s

theorem ofHelpers_writeBlock (c : Call) (names : List String) (hbody : ∀ s, OfHelpers (body s))
    (h : ∀ w ∈ otherwise, ∀ s, OfHelpers (w s)) (s : Scope) :
    OfHelpers (writeBlock c names body otherwise s) := by
  obtain ⟨name, params, named⟩ := c
  refine (ofHelpers_paramValues s params).bind fun args => ?_
  refine (ofHelpers_namedValues s named).bind fun named => ?_
  dsimp only
  split
  · exact ofHelpers_writeIf hbody h _ s
  · exact ofHelpers_writeIf hbody h _ s
  · split
    · exact hbody _
    · exact ofHelpers_writeOtherwise h s
  · split
    · exact ofHelpers_getD h s
    · exact ofHelpers_writeEach hbody _ _ _ _ _ s
  · split
    · exact ofHelpers_getD h s
    · exact ofHelpers_writeEach hbody _ _ _ _ _ s
  · exact ofHelpers_writeOtherwise h s
  · exact hbody s
  · split
    · exact (OfHelpers.lift _).bind fun _ => ofHelpers_writeIf hbody h _ s
    · exact (ofHelpers_callHelper _ args).bind fun _ => .pure _

mutual

theorem Node.ofHelpers_write : (n : Node) → ∀ s, OfHelpers (n.write s)
  | .text _, _ => .pure _
  | .output shown, s => (Shown.ofHelpers_value s shown).bind fun _ => .pure _
  | .block c names body none, s =>
    ofHelpers_writeBlock c names (ofHelpers_writeAll body) (fun _ hw => by cases hw) s
  | .block c names body (some nodes), s =>
    ofHelpers_writeBlock c names (ofHelpers_writeAll body)
      (fun w hw => Option.some.inj hw ▸ ofHelpers_writeAll nodes) s

theorem ofHelpers_writeAll : (ns : List Node) → ∀ s, OfHelpers (writeAll ns s)
  | [], _ => .pure _
  | n :: ns, s =>
    (Node.ofHelpers_write n s).bind fun _ => (ofHelpers_writeAll ns s).bind fun _ => .pure _

end

end Writers

theorem ofHelpers_render (template : List Char) (data : Json) :
    OfHelpers (render template data) := by
  unfold render
  split
  · exact ofHelpers_writeAll _ _
  · exact .throw _

end Blocks

end Stencil
