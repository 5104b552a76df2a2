import Placeholder.Proofs.Calls

/-!
# What all work of a resolver has in common

Whatever a resolver is asked, its work is put together in the same few ways: values, sequences,
panics and where they are caught, the question to a custom resolver, the question to the cache and
the source, and the report at the end. A relation between the work of two resolvers that goes
through each of these holds for every question to both of them. A property of the work of one
resolver is the case in which the other does not matter.
-/
namespace Placeholder

variable {σ : Type}

/-- Something that is reported of foreign code and is no answer. -/
inductive Event.Aside : Event → Prop
  | customCalled (expansion identifier : String) (context : Context) :
      Aside (.customCalled expansion identifier context)
  | failed (expansion : String) : Aside (.failed expansion)

namespace Resolver

/-- Neither the gate nor the refusal settles the token, which has been read somewhere. -/
structure Allows (r : Resolver σ) (token : Token) (context : Context) : Prop where
  parsed : token.Parsed
  passes : Passes token context
  allowed : r.refuses token = false

theorem parsed_of_tokens? {r : Resolver σ} {text : String} {tokens : List Token}
    (h : r.tokens? text = some tokens) : ∀ t ∈ tokens, t.Parsed := by
  intro t ht
  rw [← tokens_eq_of_tokens? h] at ht
  exact ⟨r.delimiter, text, .inl ht⟩

/-! ## Two resolvers -/

/-- Two resolvers differ in their sources at most, and a relation between pieces of work goes
through everything that their work is put together with. -/
structure Lockstep (r r' : Resolver σ)
    (R : ∀ {α : Type}, Exec (State σ) α → Exec (State σ) α → Prop) : Prop where
  said : r' = { r with source := r'.source }
  refuses : ∀ token, r'.refuses token = r.refuses token
  value : ∀ {α : Type} (a : α), R (pure a) (pure a)
  panic : ∀ {α : Type} (p : Panic), R (Exec.panic p : Exec (State σ) α) (Exec.panic p)
  bind : ∀ {α β : Type} {x y : Exec (State σ) α} {f g : α → Exec (State σ) β}, R x y →
    (∀ a, R (f a) (g a)) → R (x >>= f) (y >>= g)
  attempt : ∀ {α : Type} {x y : Exec (State σ) α}, R x y → R (Exec.attempt x) (Exec.attempt y)
  customValue : ∀ {inner inner' : Inner σ},
    (∀ text context, R (inner text context) (inner' text context)) →
    ∀ token context, R (Resolver.customValue inner token context)
      (Resolver.customValue inner' token context)
  gate : ∀ {token context}, token.Parsed → ¬ Passes token context →
    R (settled token context .gate .empty) (settled token context .gate .empty)
  custom : ∀ {token context} (text : String), token.Parsed → Passes token context →
    R (settled token context .custom (.value text)) (settled token context .custom (.value text))
  refusal : ∀ {token context}, token.Parsed → Passes token context → r.refuses token = true →
    R (settled token context .refusal .empty) (settled token context .refusal .empty)
  lookup : ∀ {token context}, r.Allows token context →
    R (r.lookup token context) (r'.lookup token context)

namespace Lockstep

variable {r r' : Resolver σ} {R : ∀ {α : Type}, Exec (State σ) α → Exec (State σ) α → Prop}
  {inner inner' : Inner σ}

theorem settle (h : r.Lockstep r' R)
    (hinner : ∀ text context, R (inner text context) (inner' text context)) {token : Token}
    (ht : token.Parsed) (context : Context) :
    R (r.settle inner token context) (r'.settle inner' token context) := by
  unfold Resolver.settle
  rw [h.refuses]
  by_cases hp : Passes token context
  · rw [gate_eq_false_iff.mpr hp]
    refine h.bind (h.customValue hinner token context) fun text? => ?_
    cases text? with
    | some text => exact h.custom text ht hp
    | none =>
        change R (if r.refuses token = true then _ else _) (if r.refuses token = true then _ else _)
        split_ifs with hrefuses
        · exact h.refusal ht hp hrefuses
        · exact h.lookup ⟨ht, hp, by simpa using hrefuses⟩
  · have hgate := eq_true_of_ne_false (mt gate_eq_false_iff.mp hp)
    rw [if_pos hgate, if_pos hgate]
    exact h.gate ht hp

theorem settleEach (h : r.Lockstep r' R)
    (hinner : ∀ text context, R (inner text context) (inner' text context)) (context : Context)
    {tokens : List Token} (ht : ∀ t ∈ tokens, t.Parsed) (answers : Answers) :
    R (r.settleEach inner context tokens answers)
      (r'.settleEach inner' context tokens answers) := by
  induction tokens generalizing answers with
  | nil => exact h.value answers
  | cons t rest ih =>
      obtain ⟨hfirst, hrest⟩ := List.forall_mem_cons.mp ht
      unfold Resolver.settleEach
      split_ifs
      · exact ih hrest answers
      · exact h.bind (h.settle hinner hfirst context) fun answer => ih hrest _

theorem runTasks (h : r.Lockstep r' R)
    (hinner : ∀ text context, R (inner text context) (inner' text context)) (context : Context)
    {tokens : List Token} (ht : ∀ t ∈ tokens, t.Parsed) (answers : Answers) :
    R (r.runTasks inner context tokens answers) (r'.runTasks inner' context tokens answers) := by
  induction tokens generalizing answers with
  | nil => exact h.value answers
  | cons t rest ih =>
      obtain ⟨hfirst, hrest⟩ := List.forall_mem_cons.mp ht
      refine h.bind (h.attempt (h.settle hinner hfirst context)) fun answer? => ?_
      cases answer? with
      | some answer => exact ih hrest _
      | none => exact ih hrest answers

theorem render (h : r.Lockstep r' R) (fallback : Option String) (answers : Answers)
    (tokens : List Token) (text : String) :
    R (r.render fallback answers tokens text) (r'.render fallback answers tokens text) := by
  have hrender : r'.render fallback answers tokens text =
      r.render fallback answers tokens text := by
    rw [h.said]
    rfl
  rw [hrender]
  unfold Resolver.render
  split
  · exact h.value _
  · exact h.panic _

theorem tokens?_eq (h : r.Lockstep r' R) (text : String) : r'.tokens? text = r.tokens? text := by
  rw [h.said]
  rfl

theorem fallback_eq (h : r.Lockstep r' R) : r'.fallback = r.fallback := by
  rw [h.said]

theorem pass (h : r.Lockstep r' R)
    (hinner : ∀ text context, R (inner text context) (inner' text context))
    (fallback : Option String) (text : String) (context : Context) :
    R (r.pass inner fallback text context) (r'.pass inner' fallback text context) := by
  unfold Resolver.pass
  rw [h.tokens?_eq]
  cases htokens : r.tokens? text with
  | none => exact h.value text
  | some tokens =>
      have ht : ∀ t ∈ tokens.reverse, t.Parsed := by simpa using parsed_of_tokens? htokens
      exact h.bind (h.settleEach hinner context ht _) fun answers =>
        h.render fallback answers _ text

theorem nested (h : r.Lockstep r' R) (depth : Nat) (text : String) (context : Context) :
    R (r.nested depth text context) (r'.nested depth text context) := by
  induction depth generalizing text context with
  | zero => exact h.panic _
  | succ depth ih =>
      unfold Resolver.nested
      rw [h.fallback_eq]
      exact h.pass ih r.fallback text context

theorem toLimit (h : r.Lockstep r' R) (text : String) (context : Context) :
    R (r.inner text context) (r'.inner text context) := by
  have hlimit : r'.nestingLimit = r.nestingLimit := by rw [h.said]
  unfold Resolver.inner
  rw [hlimit]
  exact h.nested r.nestingLimit text context

theorem resolveInOrder (h : r.Lockstep r' R) {order : List Token → List Token}
    (horder : ∀ tokens, (order tokens).Perm tokens) (text : String) (context : Context) :
    R (r.resolveInOrder order text context) (r'.resolveInOrder order text context) := by
  unfold Resolver.resolveInOrder
  rw [h.tokens?_eq, h.fallback_eq]
  cases htokens : r.tokens? text with
  | none => exact h.value text
  | some tokens =>
      have ht : ∀ t ∈ order (onePerKey tokens.reverse), t.Parsed := by
        intro t ht
        have hmem := onePerKey_subset ((horder _).mem_iff.mp ht)
        exact parsed_of_tokens? htokens t (List.mem_reverse.mp hmem)
      exact h.bind (h.runTasks h.toLimit context ht _) fun answers =>
        h.render r.fallback answers _ text

theorem resolveToken (h : r.Lockstep r' R) {token : Token} (ht : token.Parsed)
    (context : Context) : R (r.resolveToken token context) (r'.resolveToken token context) :=
  h.settle h.toLimit ht context

theorem resolvePlaceholder (h : r.Lockstep r' R) (placeholder : String) (context : Context) :
    R (r.resolvePlaceholder placeholder context) (r'.resolvePlaceholder placeholder context) := by
  have hdelimiter : r'.delimiter = r.delimiter := by rw [h.said]
  unfold Resolver.resolvePlaceholder
  rw [hdelimiter]
  cases htoken : r.delimiter.token? placeholder with
  | none => exact h.value _
  | some token => exact h.resolveToken ⟨r.delimiter, placeholder, .inr htoken⟩ context

/-- The relation holds for the work on every question. -/
theorem query (h : r.Lockstep r' R) (query : Query) : R (query.perform r) (query.perform r') := by
  cases query with
  | resolve text context =>
      have hpass := h.pass h.toLimit r.fallback text context
      unfold Query.perform resolve
      rw [h.fallback_eq]
      exact h.bind hpass fun _ => h.value _
  | resolveWithFallback text context fallback =>
      exact h.bind (h.pass h.toLimit fallback text context) fun _ => h.value _
  | resolveByTasks schedule text context =>
      exact h.bind (h.resolveInOrder schedule.perm text context) fun _ => h.value _
  | resolvePlaceholder placeholder context =>
      exact h.bind (h.resolvePlaceholder placeholder context) fun _ => h.value _
  | resolveToken token parsed context =>
      exact h.bind (h.resolveToken parsed context) fun _ => h.value _

end Lockstep

/-! ## One resolver -/

/-- A property of pieces of work goes through everything that the work of a resolver is put together
with. What a custom resolver does is taken apart too. -/
structure Closed (r : Resolver σ) (P : ∀ {α : Type}, Exec (State σ) α → Prop) : Prop where
  value : ∀ {α : Type} (a : α), P (pure a)
  panic : ∀ {α : Type} (p : Panic), P (Exec.panic p : Exec (State σ) α)
  state : P Exec.state
  bind : ∀ {α β : Type} {x : Exec (State σ) α} {f : α → Exec (State σ) β}, P x →
    (∀ a, P (f a)) → P (x >>= f)
  attempt : ∀ {α : Type} {x : Exec (State σ) α}, P x → P (Exec.attempt x)
  foreign : ∀ host : σ, P (Exec.change fun s => { s with host })
  aside : ∀ {event : Event}, event.Aside → P (Exec.report event)
  unregister : ∀ expansion, P (Exec.update fun s => s.unregisterCustom expansion)
  gate : ∀ {token context}, token.Parsed → ¬ Passes token context →
    P (settled token context .gate .empty)
  custom : ∀ {token context} (text : String), token.Parsed → Passes token context →
    P (settled token context .custom (.value text))
  refusal : ∀ {token context}, token.Parsed → Passes token context → r.refuses token = true →
    P (settled token context .refusal .empty)
  lookup : ∀ {token context}, r.Allows token context → P (r.lookup token context)

namespace Closed

variable {r : Resolver σ} {P : ∀ {α : Type}, Exec (State σ) α → Prop} {inner : Inner σ}

theorem perform (h : r.Closed P) (hinner : ∀ text context, P (inner text context))
    (step : Step σ) : P (step.perform inner) := by
  induction step with
  | finish outcome host => exact h.bind (h.foreign host) fun _ => h.value outcome
  | resolve text context host goOn ih =>
      exact h.bind (h.foreign host) fun _ => h.bind (hinner text context) fun resolved =>
        h.bind h.state fun s => ih resolved s.host
  | unregister expansion host goOn ih =>
      exact h.bind (h.foreign host) fun _ => h.bind (h.unregister expansion) fun existed =>
        h.bind h.state fun s => ih existed s.host

theorem customValue (h : r.Closed P) (hinner : ∀ text context, P (inner text context))
    (token : Token) (context : Context) : P (customValue inner token context) := by
  refine h.bind h.state fun s => ?_
  split
  · exact h.value none
  · refine h.bind (h.aside (.customCalled _ _ _)) fun _ =>
      h.bind (h.attempt (h.perform hinner _)) fun outcome => ?_
    split
    · exact h.value _
    · exact h.value none
    all_goals exact h.bind (h.aside (.failed _)) fun _ => h.value none

theorem lockstep (h : r.Closed P) : r.Lockstep r (fun x _ => P x) where
  said := rfl
  refuses _ := rfl
  value := h.value
  panic := h.panic
  bind := h.bind
  attempt := h.attempt
  customValue := h.customValue
  gate := h.gate
  custom := h.custom
  refusal := h.refusal
  lookup := h.lookup

/-- The work on every question has the property. -/
theorem query (h : r.Closed P) (query : Query) : P (query.perform r) :=
  h.lockstep.query query

end Closed
end Resolver
end Placeholder
