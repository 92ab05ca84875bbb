import Antecedent.Rulebook
import Mathlib.Data.List.Forall2

/-! Rulebooks over whole sessions: a call adds the rules of all its definitions at the end, or leaves
everything but the memory of its supplier as it was. -/

namespace Antecedent

variable {σ α : Type} [PatternReader]

def Supplier.ask (supplier : Supplier σ α) : List Definition → σ → List (Definition × α) × σ
  | [], memory => ([], memory)
  | d :: ds, memory =>
    let (action, memory) := supplier d memory
    let (asked, memory) := ask supplier ds memory
    ((d, action) :: asked, memory)

inductive Call (σ α : Type) where
  | rule (name : String) (priority : Option Int32) (conditions : List Condition) (action : α)
  | define (d : Definition) (action : α)
  | load (text : String) (supplier : Supplier σ α)
  | loadFile (outcome : Except ReadFault String) (supplier : Supplier σ α)

structure Session (σ α : Type) where
  book : Rulebook α
  memory : σ

namespace Call

def written (text : String) : Except LoadFault (List Definition) :=
  (Source.parse text).mapError .unparsed

def definitions : Call σ α → Except LoadFault (List Definition)
  | .rule name priority conditions _ => .ok [⟨name, priority, conditions⟩]
  | .define d _ => .ok [d]
  | .load text _ => written text
  | .loadFile (.error fault) _ => .error (.unreadable fault)
  | .loadFile (.ok text) _ => written text

def supplier : Call σ α → Supplier σ α
  | .rule _ _ _ action => fun _ memory => (action, memory)
  | .define _ action => fun _ memory => (action, memory)
  | .load _ supplier => supplier
  | .loadFile _ supplier => supplier

def perform (session : Session σ α) : Call σ α → Except LoadFault Nat × Session σ α
  | .rule name priority conditions action =>
    let (result, book) := session.book.rule name priority conditions action
    (result.mapError .refused, ⟨book, session.memory⟩)
  | .define d action =>
    let (result, book) := session.book.define d action
    (result.mapError .refused, ⟨book, session.memory⟩)
  | .load text supplier =>
    let (result, memory, book) := session.book.loadText text supplier session.memory
    (result, ⟨book, memory⟩)
  | .loadFile outcome supplier =>
    let (result, memory, book) := session.book.loadRead outcome supplier session.memory
    (result, ⟨book, memory⟩)

/-- What a call may do under some limits to a list of rules and to the memory of its supplier. -/
inductive AllOrNothing (limits : Limits) (call : Call σ α) (rules : List (Rule α)) (memory : σ) :
    Except LoadFault Nat → List (Rule α) → σ → Prop
  | unread {fault : LoadFault} : call.definitions = .error fault →
      AllOrNothing limits call rules memory (.error fault) rules memory
  | refused {earlier later : List Definition} {d : Definition} {asked : List (Definition × α)}
      {action : α} {memory' : σ} {fault : CompileFault} :
      call.definitions = .ok (earlier ++ d :: later) →
      call.supplier.ask (earlier ++ [d]) memory = (asked ++ [(d, action)], memory') →
      (∀ p ∈ asked, ∃ batch, p.1.compile limits p.2 = .ok batch) →
      d.compile limits action = .error fault →
      AllOrNothing limits call rules memory (.error (.refused fault)) rules memory'
  | added {ds : List Definition} {asked : List (Definition × α)} {memory' : σ}
      {batches : List (List (Rule α))} : call.definitions = .ok ds →
      call.supplier.ask ds memory = (asked, memory') →
      List.Forall₂ (fun p batch => p.1.compile limits p.2 = .ok batch) asked batches →
      AllOrNothing limits call rules memory (.ok batches.flatten.length)
        (rules ++ batches.flatten) memory'

end Call

inductive Event (σ α : Type) where
  | call (c : Call σ α)
  | limits (l : Limits)

namespace Session

def next (session : Session σ α) : Event σ α → Session σ α
  | .call c => (c.perform session).2
  | .limits l => ⟨session.book.withLimits l, session.memory⟩

def after (session : Session σ α) (events : List (Event σ α)) : Session σ α :=
  events.foldl next session

end Session

def Event.limitsFrom (l : Limits) : Event σ α → Limits
  | .call _ => l
  | .limits l' => l'

def limitsInForce (first : Limits) (events : List (Event σ α)) : Limits :=
  events.foldl Event.limitsFrom first

lemma compileAll_cases (limits : Limits) (supplier : Supplier σ α) (ds : List Definition)
    (memory : σ) :
    (∃ asked memory' batches, supplier.ask ds memory = (asked, memory') ∧
      List.Forall₂ (fun p batch => p.1.compile limits p.2 = .ok batch) asked batches ∧
      compileAll limits supplier ds memory = (.ok batches.flatten, memory')) ∨
    ∃ earlier d later asked action memory' fault, ds = earlier ++ d :: later ∧
      supplier.ask (earlier ++ [d]) memory = (asked ++ [(d, action)], memory') ∧
      (∀ p ∈ asked, ∃ batch, p.1.compile limits p.2 = .ok batch) ∧
      d.compile limits action = .error fault ∧
      compileAll limits supplier ds memory = (.error fault, memory') := by
  induction ds generalizing memory with
  | nil => exact .inl ⟨[], memory, [], rfl, .nil, rfl⟩
  | cons d ds ih =>
    rcases hs : supplier d memory with ⟨action, m⟩
    cases hd : d.compile limits action with
    | error fault =>
      refine .inr ⟨[], d, ds, [], action, m, fault, rfl, ?_, by simp, hd, ?_⟩
      · simp [Supplier.ask, hs]
      · simp [compileAll, hs, hd]
    | ok rules =>
      rcases ih m with ⟨asked, m', batches, ha, hb, hc⟩ |
        ⟨earlier, e, later, asked, act, m', fault, rfl, ha, hb, he, hc⟩
      · refine .inl ⟨(d, action) :: asked, m', rules :: batches, ?_, .cons hd hb, ?_⟩
        · simp [Supplier.ask, hs, ha]
        · simp [compileAll, hs, hd, hc, Except.map]
      · refine .inr ⟨d :: earlier, e, later, (d, action) :: asked, act, m', fault, rfl, ?_, ?_, he, ?_⟩
        · simp [Supplier.ask, hs, ha]
        · intro p hp
          rcases List.mem_cons.mp hp with rfl | hp
          · exact ⟨rules, hd⟩
          · exact hb p hp
        · simp [compileAll, hs, hd, hc, Except.map]

def Session.settle (session : Session σ α) (supplier : Supplier σ α) :
    Except LoadFault (List Definition) → Except LoadFault Nat × Session σ α
  | .error fault => (.error fault, session)
  | .ok ds =>
    match compileAll session.book.limits supplier ds session.memory with
    | (.ok rules, memory) => (.ok rules.length, ⟨session.book.add rules, memory⟩)
    | (.error fault, memory) => (.error (.refused fault), ⟨session.book, memory⟩)

namespace Call

lemma perform_define (session : Session σ α) (d : Definition) (action : α) :
    (Call.define d action).perform session =
      session.settle (fun _ memory => (action, memory)) (.ok [d]) := by
  cases hd : d.compile session.book.limits action <;>
    simp [perform, Session.settle, compileAll, Rulebook.define, hd, Except.mapError, Except.map]

lemma perform_load (session : Session σ α) (text : String) (supplier : Supplier σ α) :
    (Call.load text supplier).perform session = session.settle supplier (written text) := by
  cases hp : Source.parse text with
  | error e => simp [perform, written, Session.settle, Rulebook.loadText, hp, Except.mapError]
  | ok ds =>
    rcases hc : compileAll session.book.limits supplier ds session.memory with ⟨_ | _, m⟩ <;>
      simp [perform, written, Session.settle, Rulebook.loadText, hp, hc, Except.mapError]

lemma perform_eq (call : Call σ α) (session : Session σ α) :
    call.perform session = session.settle call.supplier call.definitions := by
  cases call with
  | rule name priority conditions action =>
    exact perform_define session ⟨name, priority, conditions⟩ action
  | define d action => exact perform_define session d action
  | load text supplier => exact perform_load session text supplier
  | loadFile outcome supplier =>
    cases outcome with
    | error fault => rfl
    | ok text => exact perform_load session text supplier

lemma perform_allOrNothing (call : Call σ α) (session : Session σ α) :
    call.AllOrNothing session.book.limits session.book.rules session.memory
      (call.perform session).1 (call.perform session).2.book.rules
      (call.perform session).2.memory := by
  rw [perform_eq]
  cases hd : call.definitions with
  | error fault => exact .unread hd
  | ok ds =>
    simp only [Session.settle]
    rcases compileAll_cases session.book.limits call.supplier ds session.memory with
      ⟨asked, m, batches, ha, hb, hc⟩ |
      ⟨earlier, d, later, asked, action, m, fault, rfl, ha, hb, he, hc⟩
    · rw [hc]
      exact .added hd ha hb
    · rw [hc]
      exact .refused hd ha hb he

lemma perform_limits (call : Call σ α) (session : Session σ α) :
    (call.perform session).2.book.limits = session.book.limits := by
  rw [perform_eq]
  cases call.definitions with
  | error fault => rfl
  | ok ds =>
    simp only [Session.settle]
    rcases compileAll session.book.limits call.supplier ds session.memory with ⟨_ | _, m⟩ <;> rfl

end Call

def addedCount : Except LoadFault Nat → Nat
  | .ok n => n
  | .error _ => 0

def addedTotal (results : List (Except LoadFault Nat)) : Nat :=
  results.foldr (fun result n => addedCount result + n) 0

lemma Call.AllOrNothing.exists_added {limits : Limits} {call : Call σ α}
    {rules rules' : List (Rule α)} {memory memory' : σ} {result : Except LoadFault Nat}
    (h : call.AllOrNothing limits rules memory result rules' memory') :
    ∃ added, rules' = rules ++ added ∧ added.length = addedCount result := by
  cases h with
  | unread hd => exact ⟨[], by simp, rfl⟩
  | refused hd ha hb he => exact ⟨[], by simp, rfl⟩
  | @added ds asked memory' batches hd ha hb => exact ⟨batches.flatten, rfl, rfl⟩

namespace Session

def outcomes (session : Session σ α) : List (Event σ α) → List (Except LoadFault Nat)
  | [] => []
  | .call c :: events => (c.perform session).1 :: outcomes (session.next (.call c)) events
  | .limits l :: events => outcomes (session.next (.limits l)) events

lemma next_limits (session : Session σ α) (e : Event σ α) :
    (session.next e).book.limits = e.limitsFrom session.book.limits := by
  cases e with
  | call c => exact c.perform_limits session
  | limits l => rfl

lemma after_limits (session : Session σ α) (events : List (Event σ α)) :
    (session.after events).book.limits = limitsInForce session.book.limits events := by
  induction events generalizing session with
  | nil => rfl
  | cons e events ih =>
    have hrest := ih (session.next e)
    rw [next_limits] at hrest
    exact hrest

lemma after_rules (session : Session σ α) (events : List (Event σ α)) :
    ∃ added, (session.after events).book.rules = session.book.rules ++ added ∧
      added.length = addedTotal (session.outcomes events) := by
  induction events generalizing session with
  | nil => exact ⟨[], by simp [after], rfl⟩
  | cons e events ih =>
    obtain ⟨later, hl, hn⟩ := ih (session.next e)
    cases e with
    | limits l => exact ⟨later, hl, hn⟩
    | call c =>
      obtain ⟨added, ha, hc⟩ := (c.perform_allOrNothing session).exists_added
      refine ⟨added ++ later, ?_, ?_⟩
      · rw [← List.append_assoc, ← ha]
        exact hl
      · simp only [outcomes, addedTotal, List.foldr_cons, List.length_append, hc, hn]

/-- A call at any point of any session. Before it, the session has only added rules, as many as its
calls have returned; and the call itself is held to the limits set last. -/
theorem call_adds_all_or_nothing (session : Session σ α) (events : List (Event σ α))
    (call : Call σ α) :
    let now := session.after events
    let done := session.after (events ++ [.call call])
    (∃ added, now.book.rules = session.book.rules ++ added ∧
      added.length = addedTotal (session.outcomes events)) ∧
    now.book.limits = limitsInForce session.book.limits events ∧
    done.book.limits = now.book.limits ∧
    call.AllOrNothing now.book.limits now.book.rules now.memory (call.perform now).1
      done.book.rules done.memory := by
  intro now done
  have hdone : done = (call.perform now).2 := by simp [done, now, after, next]
  refine ⟨after_rules session events, after_limits session events, ?_, ?_⟩
  · rw [hdone]
    exact call.perform_limits now
  · rw [hdone]
    exact call.perform_allOrNothing now

end Session

end Antecedent
