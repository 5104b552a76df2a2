import Placeholder.Proofs.Histories
import Placeholder.Proofs.Moves

/-!
# Where answers come from

Nothing is assumed here of the room in the cache, of its clock, or of foreign code. Even so an entry
of the cache is the value that was made last under its key and not dropped since, and whatever a
resolution comes to has a source: a custom resolver, a handler that the registry has chosen for this
very token and context, or such a handler earlier, through an entry that is still fresh.
-/
namespace Placeholder

variable {σ : Type}

/-- What single resolutions leave in a history. -/
def notes (now : UInt64) (events : List Event) : List Happening :=
  (settlements events).map (Happening.settled · now)

@[simp] theorem notes_append (now : UInt64) (first second : List Event) :
    notes now (first ++ second) = notes now first ++ notes now second := by
  simp [notes]

/-! ## Entries -/

/-- Each entry is the value made last under its key, with the time to live that the registry says
for all who come to this key. -/
structure Backed (g : Registry σ) (past : List Happening) (cache : Cache) : Prop where
  latest : ∀ {key entry}, cache.entries.find? key = some entry →
    latest key past = some (entry.value, entry.written)
  ttl : ∀ {token : Token} {context : Context} {entry}, token.Parsed → Passes token context →
    cache.entries.find? (Key.ofToken token context) = some entry →
    entry.ttl = g.ttl token.expansion token.identifier

namespace Backed

variable {g : Registry σ} {past : List Happening} {cache cache' : Cache}

theorem empty (g : Registry σ) (past : List Happening) (capacity : UInt64) (clock : Clock) :
    Backed g past (.empty capacity clock) where
  latest h := by simp [Cache.empty] at h
  ttl _ _ h := by simp [Cache.empty] at h

theorem of_find? (h : Backed g past cache)
    (hfind : ∀ key entry, cache'.entries.find? key = some entry →
      cache.entries.find? key = some entry) : Backed g past cache' where
  latest hk := h.latest (hfind _ _ hk)
  ttl ht hc hk := h.ttl ht hc (hfind _ _ hk)

theorem concat (h : Backed g past cache) {x : Happening}
    (hfind : ∀ key entry, cache'.entries.find? key = some entry →
      cache.entries.find? key = some entry ∧ x.Spares key) : Backed g (past ++ [x]) cache' where
  latest hk := by
    obtain ⟨hold, hspares⟩ := hfind _ _ hk
    rw [latest_concat, hspares, h.latest hold]
  ttl ht hc hk := h.ttl ht hc (hfind _ _ hk).1

theorem invalidate (h : Backed g past cache) (key : Key) :
    Backed g (past ++ [.invalidated key]) (cache.invalidate key) := by
  apply h.concat
  intro k entry hk
  rw [Cache.find?_invalidate] at hk
  split_ifs at hk with hne
  exact ⟨hk, fun _ => if_neg (Ne.symm hne)⟩

theorem invalidateSubject (h : Backed g past cache) (whom : Subject) :
    Backed g (past ++ [.forgotten whom]) (cache.invalidateSubject whom) := by
  apply h.concat
  intro k entry hk
  rw [Cache.find?_invalidateSubject] at hk
  split_ifs at hk with hm
  exact ⟨hk, fun _ => if_neg hm⟩

theorem clear (h : Backed g past cache) : Backed g (past ++ [.cleared]) cache.clear := by
  apply h.concat
  intro k entry hk
  simp [Cache.clear] at hk

theorem put (h : Backed g past cache) {x : Settled} (hx : x.Genuine) {value : String}
    (hp : x.produced? = some value) :
    Backed g (past ++ [.settled x cache.clock.now])
      (cache.put x.key value (g.ttl x.token.expansion x.token.identifier)) := by
  constructor
  · intro key entry hk
    rw [latest_concat]
    by_cases hkey : x.key = key
    · subst hkey
      rw [Cache.find?_put_self hk, Happening.touch_produced hp rfl]
    · rw [Cache.find?_put_of_ne (Ne.symm hkey)] at hk
      rw [Happening.touch_settled_of_ne hkey, h.latest hk]
  · intro token context entry ht hc hk
    by_cases hkey : Key.ofToken token context = x.key
    · rw [hkey] at hk
      rw [Cache.find?_put_self hk]
      exact g.ttl_eq_of_key_eq hx.parsed ht (hx.passes_of_produced hp) hc hkey.symm
    · rw [Cache.find?_put_of_ne hkey] at hk
      exact h.ttl ht hc hk

end Backed

/-- The cache is backed, if there is one. -/
def State.Backed (g : Registry σ) (past : List Happening) (s : State σ) : Prop :=
  ∀ cache, s.cache = some cache → Placeholder.Backed g past cache

namespace State.Backed

variable {g : Registry σ} {past future : List Happening} {s : State σ}

theorem start (g : Registry σ) (capacity : UInt64) (clock : Clock) (host : σ) :
    (State.withEmptyCache capacity clock host).Backed g [] := by
  intro cache hcache
  cases hcache
  exact .empty g [] capacity clock

theorem concat_settled (hs : s.Backed g past) {x : Settled} (hx : x.produced? = none)
    (now : UInt64) : s.Backed g (past ++ [.settled x now]) := by
  intro cache hcache
  refine (hs cache hcache).concat fun key entry hk => ⟨hk, fun last => ?_⟩
  simp only [Happening.touch, hx]

theorem onCache (hs : s.Backed g past) {f : Cache → Cache}
    (hf : ∀ cache, Placeholder.Backed g past cache → Placeholder.Backed g future (f cache)) :
    (s.onCache f).Backed g future := by
  intro cache hcache
  obtain ⟨old, hold, rfl⟩ := Option.map_eq_some_iff.mp hcache
  exact hf old (hs old hold)

end State.Backed

/-! ## Answers -/

namespace Settled

/-- A resolution came to a fresh text that a handler made for it: the one that is chosen for the
token, called with what the token asks for and with the context. -/
structure MadeBy (g : Registry σ) (h : Handler σ) (x : Settled) (text : String) : Prop where
  produced : x.produced? = some text
  chosen : ∃ argument host, g.choose x.token.expansion x.token.identifier = some (h, argument) ∧
    (h.run ⟨h.expansion, x.token.identifier, argument, x.context⟩ host).1 = .value text
  suits : Registry.Suits h x.context

/-- Where a resolution had its answer from, after what was before. -/
inductive Accounted (r : Resolver σ) (g : Registry σ) (past : List Happening) (now : UInt64)
    (x : Settled) : Prop
  | empty : x.Genuine → x.answer = .empty → Accounted r g past now x
  | custom {text : String} : x.Genuine → x.origin = .custom → x.answer = .value text →
      Accounted r g past now x
  | made {h : Handler σ} {text : String} : r.Allows x.token x.context → x.MadeBy g h text →
      Accounted r g past now x
  | kept {text : String} {written : UInt64} : r.Allows x.token x.context → x.origin = .cache →
      x.answer = .cached text → latest x.key past = some (text, written) →
      (g.ttl x.token.expansion x.token.identifier).isExpired written now = false →
      Accounted r g past now x

variable {r : Resolver σ} {g : Registry σ} {past : List Happening} {now : UInt64} {x : Settled}
  {text : String}

theorem origin_of_produced (hp : x.produced? = some text) : x.origin = .registry := by
  unfold produced? at hp
  split at hp
  · assumption
  · cases hp

theorem answer_of_produced (hp : x.produced? = some text) : x.answer = .value text := by
  unfold produced? at hp
  split at hp
  · rename_i hanswer
    rw [hanswer, Option.some.inj hp]
  · cases hp

theorem MadeBy.eq_of_choose {h h' : Handler σ} {argument : Option String}
    (hx : x.MadeBy g h text)
    (hchoose : g.choose x.token.expansion x.token.identifier = some (h', argument)) : h = h' := by
  obtain ⟨argument', -, hchosen, -⟩ := hx.chosen
  exact congrArg Prod.fst (Option.some.inj (hchosen.symm.trans hchoose))

namespace Accounted

theorem genuine (h : x.Accounted r g past now) : x.Genuine := by
  cases h with
  | empty hx | custom hx => exact hx
  | made ha | kept ha => exact ⟨ha.parsed, fun _ => ha.passes⟩

theorem of_produced (h : x.Accounted r g past now) (hp : x.produced? = some text) :
    r.Allows x.token x.context ∧ ∃ h, x.MadeBy g h text := by
  have hanswer := answer_of_produced hp
  cases h with
  | empty _ hempty => simp [hanswer] at hempty
  | custom _ horigin => simp [origin_of_produced hp] at horigin
  | made ha hmade =>
      obtain rfl := Option.some.inj (hp.symm.trans hmade.produced)
      exact ⟨ha, _, hmade⟩
  | kept _ _ hcached => simp [hanswer] at hcached

theorem of_value (h : x.Accounted r g past now) (hcustom : x.origin ≠ .custom)
    (hanswer : x.answer = .value text) : x.produced? = some text := by
  cases h with
  | empty _ hempty => simp [hanswer] at hempty
  | custom _ horigin => exact (hcustom horigin).elim
  | made _ hmade =>
      have hsame := answer_of_produced hmade.produced
      rw [hanswer, Answer.value.injEq] at hsame
      rw [hmade.produced, hsame]
  | kept _ _ hcached => simp [hanswer] at hcached

end Accounted
end Settled

def Happening.Accounted (r : Resolver σ) (g : Registry σ) (past : List Happening) :
    Happening → Prop
  | settled x now => x.Accounted r g past now
  | invalidated _ | forgotten _ | cleared => True

/-! ## Runs -/

namespace Resolver

variable {r : Resolver σ} {g : Registry σ} {past : List Happening} {s s' : State σ}
  {events : List Event}

/-- What a stretch of work leaves: entries that are backed, the clock as it was, and resolutions
that are accounted for. -/
structure Leaves (r : Resolver σ) (g : Registry σ) (past : List Happening) (s : State σ)
    (events : List Event) (s' : State σ) : Prop where
  backed : s'.Backed g (past ++ notes s.now events)
  now : s'.now = s.now
  accounted : Throughout (Happening.Accounted r g) past (notes s.now events)

theorem Leaves.quiet (hs : s'.Backed g past) (hnow : s'.now = s.now)
    (hquiet : settlements events = []) : r.Leaves g past s events s' := by
  have hnotes : notes s.now events = [] := by simp [notes, hquiet]
  refine ⟨?_, hnow, ?_⟩
  · rwa [hnotes, List.append_nil]
  · rw [hnotes]
    exact .nil

/-- Work that settles one token. -/
theorem Leaves.one {x : Settled} (hx : x.Accounted r g past s.now)
    (hs : s'.Backed g (past ++ [.settled x s.now])) (hnow : s'.now = s.now)
    (hevents : settlements events = [x]) : r.Leaves g past s events s' := by
  have hnotes : notes s.now events = [.settled x s.now] := by simp [notes, hevents]
  refine ⟨?_, hnow, ?_⟩
  · rwa [hnotes]
  · rw [hnotes]
    exact Throughout.cons_iff.mpr ⟨hx, .nil⟩

theorem Leaves.without {token : Token} {context : Context} {origin : Origin}
    (ht : token.Parsed) (hc : origin ≠ .gate → Passes token context) (hs : s'.Backed g past)
    (hnow : s'.now = s.now) (hevents : settlements events = [⟨token, context, origin, .empty⟩]) :
    r.Leaves g past s events s' := by
  have hx : Settled.produced? ⟨token, context, origin, .empty⟩ = none := by cases origin <;> rfl
  exact .one (.empty ⟨ht, hc⟩ rfl) (hs.concat_settled hx _) hnow hevents

theorem Leaves.trans {u : State σ} {first second : List Event}
    (h : r.Leaves g past s first u) (h' : r.Leaves g (past ++ notes s.now first) u second s') :
    r.Leaves g past s (first ++ second) s' := by
  obtain ⟨-, hu, hfirst⟩ := h
  obtain ⟨hs', hnow, hsecond⟩ := h'
  rw [hu] at hs' hnow hsecond
  refine ⟨?_, hnow, ?_⟩
  · rwa [notes_append, ← List.append_assoc]
  · rw [notes_append]
    exact Throughout.append_iff.mpr ⟨hfirst, hsecond⟩

/-- Each move keeps the entries backed, and settles a token only if that is accounted for. -/
theorem Move.leaves (h : r.Move g s events s') (hs : s.Backed g past) :
    r.Leaves g past s events s' := by
  cases h with
  | foreign s host => exact .quiet hs rfl rfl
  | aside s haside => exact .quiet hs rfl (by cases haside <;> rfl)
  | unregister s expansion => exact .quiet hs rfl rfl
  | gate s ht hc => exact .without ht (fun h => (h rfl).elim) hs rfl rfl
  | custom s text ht hc =>
      exact .one (.custom ⟨ht, fun _ => hc⟩ rfl rfl) (hs.concat_settled rfl _) rfl rfl
  | refusal s ht hc => exact .without ht (fun _ => hc) hs rfl rfl
  | missed hmissed =>
      cases hmissed with
      | uncached => exact .quiet hs rfl rfl
      | missed hcache hget =>
          obtain ⟨hclock, -, -, hfind⟩ := Cache.get_none hget
          refine .quiet ?_ (by simp [State.now, hcache, hclock]) rfl
          intro cache hsame
          cases hsame
          refine (hs _ hcache).of_find? fun key entry hk => ?_
          rw [hfind] at hk
          split_ifs at hk
          exact hk
  | @hit token context _ cache text ha hcache hget =>
      obtain ⟨entry, hfind, hfresh, rfl⟩ := Cache.get_fst_eq_some_iff.mp hget
      have hbacked := hs cache hcache
      have hnow : s.now = cache.clock.now := by simp [State.now, hcache]
      rw [Entry.isStale, hbacked.ttl ha.parsed ha.passes hfind, ← hnow] at hfresh
      have hx : Settled.Accounted r g past s.now ⟨token, context, .cache, .cached entry.value⟩ :=
        .kept ha rfl rfl (hbacked.latest hfind) hfresh
      exact .one hx (hs.concat_settled rfl _) rfl rfl
  | nothing s ha => exact .without ha.parsed (fun _ => ha.passes) hs rfl rfl
  | @declined token context s h argument outcome host ha =>
      have hevents : settlements (outcome.faults h.expansion ++
          [.settled token context .nothing .empty]) = [⟨token, context, .nothing, .empty⟩] := by
        rw [settlements_append, settlements_faults]
        rfl
      exact .without ha.parsed (fun _ => ha.passes) hs rfl hevents
  | @fresh token context s h argument text host ha hchoose hsuits hrun =>
      have hx : Settled.Accounted r g past s.now ⟨token, context, .registry, .value text⟩ :=
        .made ha ⟨rfl, ⟨argument, s.host, hchoose, congrArg Prod.fst hrun⟩, hsuits⟩
      refine .one hx ?_ ?_ rfl
      · intro cache hcache
        obtain ⟨old, hold, rfl⟩ := Option.map_eq_some_iff.mp hcache
        have hnow : s.now = old.clock.now := by
          have hsame : s.cache = some old := hold
          simp [State.now, hsame]
        rw [hnow]
        exact (hs old hold).put hx.genuine rfl
      · cases hcache : s.cache <;> simp [State.now, State.keep, hcache]

theorem Moves.leaves (h : r.Moves g s events s') (hs : s.Backed g past) :
    r.Leaves g past s events s' := by
  induction h generalizing past with
  | refl s => exact .quiet hs rfl rfl
  | step hmove _ ih =>
      have hfirst := hmove.leaves hs
      exact hfirst.trans (ih hfirst.backed)

end Resolver

theorem Call.backed {r : Resolver σ} {g : Registry σ} (hsource : r.source = some g.toSource)
    {past : List Happening} {s : State σ} (hs : s.Backed g past) (call : Call σ) :
    (call.perform r s).state.Backed g
        (past ++ call.happenings s.now (call.perform r s).events) ∧
      Throughout (Happening.Accounted r g) past
        (call.happenings s.now (call.perform r s).events) := by
  have hone : ∀ {h : Happening}, h.Accounted r g past →
      Throughout (Happening.Accounted r g) past [h] :=
    fun hh => Throughout.cons_iff.mpr ⟨hh, .nil⟩
  cases call with
  | ask query =>
      have hleaves := ((query.perform_byMoves hsource) s).leaves hs
      exact ⟨hleaves.backed, hleaves.accounted⟩
  | register | unregister =>
      refine ⟨?_, .nil⟩
      rw [happenings, List.append_nil]
      exact hs
  | invalidate key => exact ⟨hs.onCache fun cache h => h.invalidate key, hone trivial⟩
  | invalidateSubject whom =>
      exact ⟨hs.onCache fun cache h => h.invalidateSubject whom, hone trivial⟩
  | clear => exact ⟨hs.onCache fun cache h => h.clear, hone trivial⟩
  | advance | setClock =>
      refine ⟨?_, .nil⟩
      rw [happenings, List.append_nil]
      exact hs.onCache fun cache h => h.of_find? fun key entry hk => hk

namespace Resolver

variable {r : Resolver σ} {g : Registry σ}

/-- A run keeps the entries backed, and its resolutions are accounted for. -/
theorem run_backed (hsource : r.source = some g.toSource) (calls : List (Call σ)) :
    ∀ {past : List Happening} {s : State σ}, s.Backed g past →
      (r.run calls s).state.Backed g (past ++ (r.run calls s).history) ∧
        Throughout (Happening.Accounted r g) past (r.run calls s).history := by
  induction calls with
  | nil =>
      intro past s hs
      exact ⟨by simpa [run] using hs, .nil⟩
  | cons call rest ih =>
      intro past s hs
      obtain ⟨hnext, hfirst⟩ := call.backed hsource hs
      obtain ⟨hlast, hlater⟩ := ih hnext
      refine ⟨?_, Throughout.append_iff.mpr ⟨hfirst, hlater⟩⟩
      rw [List.append_assoc] at hlast
      exact hlast

section FromTheStart

variable (hsource : r.source = some g.toSource) {calls : List (Call σ)} {capacity : UInt64}
  {clock : Clock} {host : σ}

include hsource

/-- In a run with an empty cache at first, every resolution is accounted for. -/
theorem run_accounted {before after : List Happening} {h : Happening}
    (hsplit : (r.run calls (.withEmptyCache capacity clock host)).history = before ++ h :: after) :
    h.Accounted r g before := by
  simpa using (run_backed hsource calls (.start g capacity clock host)).2 before h after hsplit

/-- In a run with an empty cache at first, what is found in the cache is what was made last, also in
the middle of the work that follows on the run. -/
theorem run_latest {events : List Event} {s : State σ} {cache : Cache} {key : Key} {entry : Entry}
    (hmoves : r.Moves g (r.run calls (.withEmptyCache capacity clock host)).state events s)
    (hcache : s.cache = some cache) (hfind : cache.entries.find? key = some entry) :
    ∃ older y newer, (r.run calls (.withEmptyCache capacity clock host)).history ++
        notes (r.run calls (.withEmptyCache capacity clock host)).state.now events =
          older ++ .settled y entry.written :: newer ∧
      y.Accounted r g older entry.written ∧ y.produced? = some entry.value ∧ y.key = key ∧
      ∀ z ∈ newer, z.Spares key := by
  obtain ⟨hbacked, haccounted⟩ := run_backed hsource calls (.start g capacity clock host)
  rw [List.nil_append] at hbacked
  have hleaves := hmoves.leaves hbacked
  have hthroughout := Throughout.append_iff.mpr ⟨haccounted, hleaves.accounted⟩
  obtain ⟨older, newer, y, hsplit, hp, hkey, hspares⟩ :=
    latest_eq_some_iff.mp ((hleaves.backed cache hcache).latest hfind)
  exact ⟨older, y, newer, hsplit, hthroughout older _ newer hsplit, hp, hkey, hspares⟩

theorem run_genuine {before after : List Happening}
    (hsplit : (r.run calls (.withEmptyCache capacity clock host)).history = before ++ after) :
    ∀ h ∈ before, h.Genuine := by
  intro h hh
  obtain ⟨first, last, rfl⟩ := List.append_of_mem hh
  rw [List.append_assoc, List.cons_append] at hsplit
  have haccounted := run_accounted hsource hsplit
  cases h with
  | settled y _ => exact Settled.Accounted.genuine haccounted
  | _ => trivial

/-- A cached answer was made earlier for the same question and the same subjects. Nothing has ended
its use since, and it is still fresh. -/
theorem run_cached {before after : List Happening} {x : Settled} {now : UInt64} {text : String}
    (hsplit : (r.run calls (.withEmptyCache capacity clock host)).history =
      before ++ .settled x now :: after) (hcached : x.answer = .cached text) :
    ∃ older y written newer h, before = older ++ .settled y written :: newer ∧
      r.Allows y.token y.context ∧ y.MadeBy g h text ∧ y.ask = x.ask ∧
      (∀ z ∈ newer, ¬ z.Ends x.token x.context) ∧
      now.toNat - written.toNat <
        (g.ttl x.token.expansion x.token.identifier).millis.toNat := by
  have hx : x.Accounted r g before now := run_accounted hsource hsplit
  cases hx with
  | empty _ hempty => simp [hcached] at hempty
  | custom _ _ hvalue => simp [hcached] at hvalue
  | made _ hmade =>
      have hvalue := Settled.answer_of_produced hmade.produced
      simp [hcached] at hvalue
  | @kept text' written ha _ hcached' hlatest hfresh =>
      obtain rfl : text = text' := by simpa using hcached.symm.trans hcached'
      have hgenuine := Settled.Accounted.genuine (run_accounted hsource hsplit)
      obtain ⟨older, newer, y, rfl, hp, hask, hends⟩ := (latest_key_eq_some_iff hgenuine ha.passes
        (run_genuine hsource hsplit) text written).mp hlatest
      rw [List.append_assoc, List.cons_append] at hsplit
      obtain ⟨hy, h, hmade⟩ := Settled.Accounted.of_produced (run_accounted hsource hsplit) hp
      refine ⟨older, y, written, newer, h, rfl, hy, hmade, hask, hends, ?_⟩
      simpa [Ttl.isExpired] using hfresh

end FromTheStart
end Resolver
end Placeholder
