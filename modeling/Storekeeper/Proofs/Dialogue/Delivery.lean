import Storekeeper.Notification.Handle
import Storekeeper.Proofs.Dialogue.Failing

/-!
# What is said reaches the user

Entering a step may run actions on the way, each of which says something, before the conversation stops
at a step that speaks for itself.  A reply carries all of it, in its order and once.

* `paragraphs_fold`: paragraphs that have been joined before are joined with others as if all had been
  joined at once.
* `Assistant.Passes`: the actions that are run from a step on, what they say, and where they lead.
* `Assistant.rendering`: the reply at the step where the conversation stops, written from what has been
  said as a whole; `Assistant.enterWithin_stops` says that it is the reply that is given.
* `Outlet.deliver_eq`: a reply is delivered by sending `Reply.outgoing` in its order.
-/

namespace Storekeeper

/-! ## Paragraphs -/

/-- The parts that are there and not empty. -/
def present (parts : List (Option String)) : List String :=
  parts.filterMap fun part => part.filter (!·.isEmpty)

theorem present_append (first second : List (Option String)) :
    present (first ++ second) = present first ++ present second :=
  List.filterMap_append

theorem present_none (parts : List (Option String)) : present (none :: parts) = present parts :=
  rfl

theorem present_some {text : String} (given : text ≠ "") (parts : List (Option String)) :
    present (some text :: parts) = text :: present parts := by
  have kept : (some text).filter (!·.isEmpty) = some text := by simp [Option.filter, given]
  unfold present
  rw [List.filterMap_cons, kept]

theorem ne_empty_of_present {parts : List (Option String)} {text : String}
    (member : text ∈ present parts) : text ≠ "" := by
  obtain ⟨part, -, kept⟩ := List.mem_filterMap.mp member
  have filled := (Option.filter_eq_some_iff.mp kept).2
  rintro rfl
  simp at filled

theorem paragraphs_of_nil {parts : List (Option String)} (nothing : present parts = []) :
    paragraphs parts = none := by
  unfold present at nothing
  unfold paragraphs
  rw [nothing]

theorem paragraphs_of_ne_nil {parts : List (Option String)} (something : present parts ≠ []) :
    paragraphs parts = some ("\n\n".intercalate (present parts)) := by
  unfold present at something ⊢
  unfold paragraphs
  cases kept : parts.filterMap fun part => part.filter (!·.isEmpty) with
  | nil => exact absurd kept something
  | cons first rest => rfl

/-- Texts joined by blank lines, if there are any. -/
def joined (texts : List String) : Option String :=
  if texts = [] then none else some ("\n\n".intercalate texts)

theorem joined_present (parts : List (Option String)) : joined (present parts) = paragraphs parts := by
  unfold joined
  split
  · rename_i nothing
    exact (paragraphs_of_nil nothing).symm
  · rename_i something
    exact (paragraphs_of_ne_nil something).symm

/-- Only the parts that are present matter. -/
theorem paragraphs_congr {parts others : List (Option String)} (same : present parts = present others) :
    paragraphs parts = paragraphs others := by
  by_cases nothing : present parts = []
  · rw [paragraphs_of_nil nothing, paragraphs_of_nil (same ▸ nothing)]
  · rw [paragraphs_of_ne_nil nothing, paragraphs_of_ne_nil (same ▸ nothing), same]

theorem intercalate_ne_empty {texts : List String} (something : texts ≠ [])
    (filled : ∀ text ∈ texts, text ≠ "") : "\n\n".intercalate texts ≠ "" := by
  cases texts with
  | nil => exact absurd rfl something
  | cons first rest =>
    have given : first ≠ "" := filled first (List.mem_cons_self ..)
    cases rest with
    | nil => rwa [String.intercalate_singleton]
    | cons second rest =>
      rw [String.intercalate_cons_cons]
      intro empty
      rw [String.append_eq_empty_iff, String.append_eq_empty_iff] at empty
      exact given empty.1.1

/-- What has been joined before is joined with the rest as if all were joined at once. -/
theorem paragraphs_fold (first rest : List (Option String)) :
    paragraphs (paragraphs first :: rest) = paragraphs (first ++ rest) := by
  by_cases nothing : present first = []
  · rw [paragraphs_of_nil nothing]
    refine paragraphs_congr ?_
    rw [present_none, present_append, nothing, List.nil_append]
  · have filled : "\n\n".intercalate (present first) ≠ "" :=
      intercalate_ne_empty nothing fun _ member => ne_empty_of_present member
    have joined : present (paragraphs first :: rest) =
        "\n\n".intercalate (present first) :: present rest := by
      rw [paragraphs_of_ne_nil nothing, present_some filled]
    have all : present (first ++ rest) = present first ++ present rest := present_append first rest
    have left : present (paragraphs first :: rest) ≠ [] := by simp [joined]
    have right : present (first ++ rest) ≠ [] := by simp [all, nothing]
    rw [paragraphs_of_ne_nil left, paragraphs_of_ne_nil right, joined, all]
    by_cases last : present rest = []
    · rw [last, String.intercalate_singleton, List.append_nil]
    · rw [String.intercalate_cons_of_ne_nil last, String.intercalate_append_of_ne_nil nothing last]

namespace Assistant

variable {σ : Type}

/-! ## From step to step -/

/-- From a step, with a context and a state of the world, these actions are run: what they say in their
order, and the step, the context and the state to which they lead. -/
inductive Passes (a : Assistant) (world : Surroundings σ) :
    String → Table Json → σ → List String → String → Table Json → σ → Prop
  | here (name : String) (context : Table Json) (s : σ) :
    Passes a world name context s [] name context s
  | onward {name : String} {context : Table Json} {s : σ} {step : ActionStep} {text : String}
    {after : Table Json} {texts : List String} {last : String} {context' : Table Json} {s' : σ} :
    a.flow.step? name = some (.action step) →
    (a.runAction step.action context).outcome world s = .ok (after, text) →
    Passes a world step.next after ((a.runAction step.action context).final world s) texts last
      context' s' →
    Passes a world name context s (text :: texts) last context' s'

/-- What a step says itself: the message of its key, if it has a key and neither is empty. -/
def spoken (a : Assistant) : Option String → List String
  | some key => if key = "" ∨ a.messages.get key = "" then [] else [a.messages.get key]
  | none => []

/-- The reply at the step where a conversation stops: what was said before, the line above, what the
actions have said, and then what the step says itself.  Only a menu that comes first keeps the line above
it; a step that is missing, or an action that is not run, says nothing. -/
def rendering (a : Assistant) (name : String) (before header : Option String)
    (texts : List String) : Reply :=
  let said := present (before :: header :: texts.map some)
  match a.flow.step? name with
  | some (.choice step) =>
    { handled := true
      preMessage := if texts = [] then before else joined said
      buttons := some
        { body := a.messages.get step.message
          options := step.choices.map fun choice => ⟨choice.id, choice.label⟩
          header := if texts = [] then header else none
          footer := none } }
  | some (.terminal step) =>
    { handled := true, response := joined (said ++ a.spoken step.message), sessionEnded := true }
  | some (.input step) => { handled := true, response := joined (said ++ a.spoken (some step.message)) }
  | some (.image step) => { handled := true, response := joined (said ++ a.spoken (some step.message)) }
  | some (.trigger _) | some (.action _) | none => { handled := true, response := joined said }

theorem spoken_eq (a : Assistant) (key? : Option String) : a.spoken key? = present [a.said key?] := by
  cases key? with
  | none => rfl
  | some key =>
    by_cases nameless : key = ""
    · simp [spoken, said, present, nameless]
    · by_cases silent : a.messages.get key = ""
      · simp [spoken, said, present, Option.filter, nameless, silent]
      · simp [spoken, said, present, Option.filter, nameless, silent]

/-- What was said and what a step says itself are joined as paragraphs. -/
theorem joined_spoken (a : Assistant) (parts : List (Option String)) (key? : Option String) :
    joined (present parts ++ a.spoken key?) = paragraphs (parts ++ [a.said key?]) := by
  rw [spoken_eq, ← present_append, joined_present]

/-- Folding what has been said into what stands before changes nothing of the reply. -/
theorem rendering_onward (a : Assistant) (name : String) (before header : Option String)
    (text : String) (texts : List String) :
    a.rendering name (paragraphs [before, header, some text]) none texts =
      a.rendering name before header (text :: texts) := by
  have fold : ∀ tail : List (Option String),
      paragraphs (paragraphs [before, header, some text] :: none :: (texts.map some ++ tail)) =
        paragraphs (before :: header :: some text :: (texts.map some ++ tail)) := by
    intro tail
    rw [paragraphs_fold]
    refine paragraphs_congr ?_
    rw [present_append, present_none, ← present_append]
    rfl
  have whole := fold []
  rw [List.append_nil] at whole
  unfold rendering
  simp only [List.map_cons, reduceCtorEq, if_false, joined_spoken, joined_present, List.cons_append]
  cases a.flow.step? name with
  | none => simp only [whole]
  | some step =>
    cases step with
    | choice step =>
      by_cases first : texts = []
      · simp only [first, if_true, List.map_nil, ite_self]
      · simp only [first, if_false, whole]
    | terminal step => simp only [fold]
    | action step => simp only [whole]
    | trigger step => simp only [whole]
    | input step => simp only [fold]
    | image step => simp only [fold]

/-- The ways in which entering a step ends, with so many actions that may be run: it stops after some
actions at a step that speaks for itself, or at an action once no further one may be run, or an action
fails on the way. -/
inductive Stops (a : Assistant) (world : Surroundings σ) (hops : Nat) (name : String)
    (arrival : Arrival) (s : σ) : Except Failure Decision → σ → Prop
  | speaks {texts : List String} {last : String} {context : Table Json} {t : σ} {write : Write} :
    a.Passes world name arrival.session.context s texts last context t →
    texts.length ≤ hops →
    (∀ step, a.flow.step? last = some (.action step) → texts.length = hops) →
    Stops a world hops name arrival s
      (.ok ⟨a.rendering last arrival.before arrival.header texts, write⟩) t
  | fails {texts : List String} {last : String} {context : Table Json} {t : σ} {step : ActionStep}
    {failure : Failure} :
    a.Passes world name arrival.session.context s texts last context t →
    texts.length < hops →
    a.flow.step? last = some (.action step) →
    (a.runAction step.action context).outcome world t = .error failure →
    Stops a world hops name arrival s (.error failure)
      ((a.runAction step.action context).final world t)

theorem Stops.onward {a : Assistant} {world : Surroundings σ} {hops : Nat} {name : String}
    {arrival : Arrival} {s t : σ} {step : ActionStep} {after : Table Json} {text : String}
    {out : Except Failure Decision} (found : a.flow.step? name = some (.action step))
    (acted : (a.runAction step.action arrival.session.context).outcome world s = .ok (after, text))
    (stops : a.Stops world hops step.next (arrival.onward name after text)
      ((a.runAction step.action arrival.session.context).final world s) out t) :
    a.Stops world (hops + 1) name arrival s out t := by
  cases stops with
  | @speaks texts last context _ write passes within full =>
    have said : a.rendering last (arrival.onward name after text).before
        (arrival.onward name after text).header texts =
          a.rendering last arrival.before arrival.header (text :: texts) :=
      a.rendering_onward last arrival.before arrival.header text texts
    rw [said]
    refine .speaks (.onward found acted passes) (Nat.succ_le_succ within) fun step at_last => ?_
    rw [List.length_cons, full step at_last]
  | fails passes within found' failed =>
    exact .fails (.onward found acted passes) (Nat.succ_lt_succ within) found' failed

theorem enterWithin_stops (a : Assistant) (world : Surroundings σ) (hops : Nat) (name : String)
    (arrival : Arrival) (s : σ) :
    a.Stops world hops name arrival s ((a.enterWithin hops name arrival).outcome world s)
      ((a.enterWithin hops name arrival).final world s) := by
  -- Only an action leads on, with one hop less.
  induction hops using Nat.strongRecOn generalizing name arrival s with
  | ind hops ih =>
    have speaks : ∀ write, (∀ step, a.flow.step? name = some (.action step) → 0 = hops) →
        a.Stops world hops name arrival s
          (.ok ⟨a.rendering name arrival.before arrival.header [], write⟩) s :=
      fun write full => .speaks (.here ..) (Nat.zero_le _) full
    unfold enterWithin
    unfold rendering at speaks
    simp only [List.map_nil, joined_spoken, joined_present, if_true] at speaks
    cases found : a.flow.step? name with
    | none =>
      simp only [found] at speaks
      exact speaks .leave fun _ impossible => by cases impossible
    | some step =>
      simp only [found] at speaks
      cases step with
      | terminal step => exact speaks _ fun _ impossible => by cases impossible
      | choice step => exact speaks _ fun _ impossible => by cases impossible
      | trigger step =>
        -- a trigger that is entered says nothing itself
        have silent : paragraphs ([arrival.before, arrival.header] ++ [a.said none]) =
            paragraphs [arrival.before, arrival.header] :=
          paragraphs_congr ((present_append _ _).trans (List.append_nil _))
        simp only [Step.prompt, silent]
        exact speaks _ fun _ impossible => by cases impossible
      | input step => exact speaks _ fun _ impossible => by cases impossible
      | image step => exact speaks _ fun _ impossible => by cases impossible
      | action step =>
        cases hops with
        | zero => exact speaks _ fun _ _ => rfl
        | succ hops =>
          cases acted : (a.runAction step.action arrival.session.context).outcome world s with
          | error failure =>
            obtain ⟨outcome, final⟩ := Turn.bind_of_error acted fun result =>
              a.enterWithin hops step.next (arrival.onward name result.1 result.2)
            have fails : a.Stops world (hops + 1) name arrival s (.error failure) _ :=
              .fails (.here ..) (Nat.succ_pos hops) found acted
            rw [← outcome, ← final] at fails
            exact fails
          | ok result =>
            obtain ⟨after, text⟩ := result
            obtain ⟨outcome, final⟩ := Turn.bind_of_ok acted fun result =>
              a.enterWithin hops step.next (arrival.onward name result.1 result.2)
            have later := ih hops (Nat.lt_succ_self hops) step.next (arrival.onward name after text)
              ((a.runAction step.action arrival.session.context).final world s)
            rw [← outcome, ← final] at later
            exact later.onward found acted

/-- With a readable context, entering a step always comes to a decision. -/
theorem enterWithin_decides (a : Assistant) (world : Surroundings σ) (hops : Nat) (name : String)
    {arrival : Arrival} (readable : Readable arrival.session.context) (s : σ) :
    ∃ decision, (a.enterWithin hops name arrival).outcome world s = .ok decision := by
  have course := Turn.goes_deeds world (a.enterWithin hops name arrival) s
  exact ((enters_of_goes course).returns readable).decides

end Assistant

/-! ## From a reply to the user -/

/-- A message that goes out to a chat. -/
inductive Outgoing where
  | text (content : String)
  | menu (menu : Menu)
  deriving DecidableEq, Repr

/-- The messages of a reply in their order: what stands before if it is not empty, and then the menu if
there is one, and else the response if it is not empty. -/
def Reply.outgoing (reply : Reply) : List Outgoing :=
  (present [reply.preMessage]).map .text ++
    match reply.buttons with
    | some menu => [.menu menu]
    | none => (present [reply.response]).map .text

namespace Outlet

variable {σ : Type}

/-- Sends a message to a chat. -/
def send (outlet : Outlet σ) (chat : String) : Outgoing → σ → Except Failure Unit × σ
  | .text content => outlet.sendText chat content
  | .menu menu => outlet.sendMenu chat menu

/-- Sends messages to a chat, one after the other, up to the first that fails. -/
def sendAll (outlet : Outlet σ) (chat : String) : List Outgoing → σ → Except Failure Unit × σ
  | [], s => (.ok (), s)
  | first :: rest, s =>
    match outlet.send chat first s with
    | (.ok (), s) => sendAll outlet chat rest s
    | (.error failure, s) => (.error failure, s)

theorem sendAll_append (outlet : Outlet σ) (chat : String) (first second : List Outgoing) (s : σ) :
    outlet.sendAll chat (first ++ second) s =
      match outlet.sendAll chat first s with
      | (.ok (), s) => outlet.sendAll chat second s
      | (.error failure, s) => (.error failure, s) := by
  induction first generalizing s with
  | nil => rfl
  | cons message rest ih =>
    simp only [List.cons_append, sendAll]
    rcases outlet.send chat message s with ⟨_ | ⟨⟩, t⟩
    · rfl
    · exact ih t

theorem sendAll_singleton (outlet : Outlet σ) (chat : String) (message : Outgoing) (s : σ) :
    outlet.sendAll chat [message] s = outlet.send chat message s := by
  simp only [sendAll]
  rcases outlet.send chat message s with ⟨_ | ⟨⟩, t⟩ <;> rfl

theorem sendGiven_eq (outlet : Outlet σ) (chat : String) (text : Option String) (s : σ) :
    outlet.sendGiven chat text s = outlet.sendAll chat ((present [text]).map .text) s := by
  unfold sendGiven present
  cases kept : text.filter (!·.isEmpty) with
  | none => simp [kept, sendAll]
  | some content => simp [kept, sendAll_singleton, send]

/-- A reply is delivered by sending its messages. -/
theorem deliver_eq (outlet : Outlet σ) (chat : String) (reply : Reply) (s : σ) :
    outlet.deliver chat reply s = outlet.sendAll chat reply.outgoing s := by
  unfold deliver Reply.outgoing
  rw [sendAll_append, sendGiven_eq]
  rcases outlet.sendAll chat ((present [reply.preMessage]).map .text) s with ⟨_ | ⟨⟩, t⟩
  · rfl
  · cases reply.buttons with
    | none => exact outlet.sendGiven_eq chat reply.response t
    | some menu => exact (outlet.sendAll_singleton chat (.menu menu) t).symm

end Outlet

namespace Desk

variable {σ : Type}

/-- Whatever comes of a turn is sent to the chat if the turn is handled, and else nothing is. -/
theorem handle_eq (world : World σ) (outlet : Outlet σ) (a : Assistant) {body : Json}
    {notification : Notification} {message : Inbound}
    (parsed : Notification.parse body = .ok notification)
    (incoming : notification.kind = Notification.incoming)
    (carried : notification.message? = some message) (desk : Desk) (s : σ) {reply : Reply}
    {after : Desk} {t : σ}
    (answered : desk.process world a notification.author.chatId message s = (.ok reply, after, t)) :
    desk.handle world outlet a body s =
      if reply.handled then
        let (sent, t) := outlet.sendAll notification.author.chatId reply.outgoing t
        (sent.map fun _ => .processed true, after, t)
      else (.ok (.processed false), after, t) := by
  unfold handle converse
  simp only [parsed, incoming, carried, answered, if_true, Outlet.deliver_eq]
  cases reply.handled with
  | false => rfl
  | true =>
    simp only [if_true]
    rcases outlet.sendAll notification.author.chatId reply.outgoing t with ⟨_ | ⟨⟩, t'⟩ <;> rfl

/-- **Nothing that is said is lost, repeated or put out of order.**  Whatever the flow, the step, what
was said before and the world, entering a step ends as `Assistant.Stops` says, with a reply that carries
all that has been said on the way, and it ends with a decision if the records of the session can be read;
and what is sent for a notification are the messages of the reply, if it is handled, in their order. -/
theorem nothing_said_is_lost (world : World σ) (outlet : Outlet σ) (a : Assistant) :
    (∀ session name header before s,
      a.Stops world.toSurroundings a.maxHops.toNat name ⟨session, header, before⟩ s
        ((a.enter session name header before).outcome world.toSurroundings s)
        ((a.enter session name header before).final world.toSurroundings s) ∧
      (Readable session.context → ∃ decision,
        (a.enter session name header before).outcome world.toSurroundings s = .ok decision)) ∧
    ∀ body notification message, Notification.parse body = .ok notification →
      notification.kind = Notification.incoming → notification.message? = some message →
      ∀ desk s reply after t,
        process world a notification.author.chatId message desk s = (.ok reply, after, t) →
        desk.handle world outlet a body s =
          if reply.handled then
            let (sent, t) := outlet.sendAll notification.author.chatId reply.outgoing t
            (sent.map fun _ => .processed true, after, t)
          else (.ok (.processed false), after, t) := by
  refine ⟨fun session name header before s => ⟨?_, fun readable => ?_⟩, ?_⟩
  · exact a.enterWithin_stops world.toSurroundings a.maxHops.toNat name ⟨session, header, before⟩ s
  · exact a.enterWithin_decides world.toSurroundings a.maxHops.toNat name readable s
  · intro body notification message parsed incoming carried desk s reply after t answered
    exact handle_eq world outlet a parsed incoming carried desk s answered

/-- A greeting is answered with a menu under a line, an image that completes a product with one text that says
that it was received and that the product was added, and a menu without a line after it, and the end of the
conversation with a goodbye. -/
theorem nothing_said_is_lost_picture :
    let world : World (List Outgoing) := ⟨⟨fun _ s => (.ok [], s), fun product s =>
      (.ok ⟨1, product.name, "", "/lamp", "", "", "", none, "", "", ""⟩, s), fun s => ("SKU", s)⟩,
      fun _ => 5⟩
    let outlet : Outlet (List Outgoing) := ⟨fun _ content s => (.ok (), s ++ [.text content]),
      fun _ menu s => (.ok (), s ++ [.menu menu])⟩
    let a : Assistant := ⟨.builtin, defaultMessages, none, true, 3, 5⟩
    let desk (events : List (Event (List Outgoing))) := (Desk.new ⟨10, 1000, []⟩).afterAll world a events
    let picture : Notification := ⟨Notification.incoming, ⟨1, "w"⟩, ⟨"alice", "alice"⟩,
      ⟨"imageMessage", none, none, none, none, some ⟨"/lamp.png", none, none, none, none, none⟩⟩, "1"⟩
    let texted (content : String) : Notification := ⟨Notification.incoming, ⟨1, "w"⟩, ⟨"alice", "alice"⟩,
      ⟨"textMessage", some content, none, none, none, none⟩, "1"⟩
    let menu (header : Option String) : Menu := ⟨a.messages.get "intent_prompt",
      [⟨"list", "List Products"⟩, ⟨"add", "Add New Product"⟩, ⟨"done", "Done"⟩], header, none⟩
    let sent (events : List (Event (List Outgoing))) (n : Notification) :=
      ((desk events).handle world outlet a n.toJson []).2.2
    sent [] (texted "hi") = [.menu (menu (some "👋 Welcome to the shop assistant!"))] ∧
      sent [.message "alice" (.text "hi") [], .message "alice" (.text "add") [],
          .message "alice" (.text "Name: Lamp\nPrice: 5\nStock: 1") []] picture =
        [.text "Image received!\n\n✅ Product \"Lamp\" added successfully!\n/lamp", .menu (menu none)] ∧
      sent [.message "alice" (.text "hi") []] (texted "done") = [.text "👋 All done. Send the trigger code again whenever you need me."] := by
  intro world outlet a desk picture texted menu sent
  obtain ⟨-, delivers⟩ := nothing_said_is_lost world outlet a
  have sends (events : List (Event (List Outgoing))) (n : Notification) (message : Inbound) (reply : Reply)
      (parsed : Notification.parse n.toJson = .ok n) (incoming : n.kind = Notification.incoming)
      (carried : n.message? = some message) (handled : reply.handled = true)
      (answered : (process world a n.author.chatId message (desk events) []).1.toOption = some reply)
      (untouched : (process world a n.author.chatId message (desk events) []).2.2 = []) :
      sent events n = (outlet.sendAll n.author.chatId reply.outgoing []).2 := by
    rcases ended : process world a n.author.chatId message (desk events) [] with ⟨result, after, t⟩
    rw [ended] at answered untouched
    cases result with
    | error failure => cases answered
    | ok given =>
      cases answered
      have empty : t = [] := untouched
      have delivered := delivers n.toJson n message parsed incoming carried (desk events) [] reply after t ended
      dsimp only [sent]
      rw [delivered, handled, empty]
      rfl
  refine ⟨?_, ?_, ?_⟩
  · exact sends [] (texted "hi") (.text "hi")
      { handled := true, buttons := some (menu (some "👋 Welcome to the shop assistant!")) }
      rfl rfl rfl rfl (by decide +kernel) (by decide +kernel)
  · exact sends _ picture (.image "/lamp.png" none)
      { handled := true
        preMessage := some "Image received!\n\n✅ Product \"Lamp\" added successfully!\n/lamp"
        buttons := some (menu none) }
      rfl rfl rfl rfl (by decide +kernel) (by decide +kernel)
  · exact sends _ (texted "done") (.text "done")
      { handled := true
        response := some "👋 All done. Send the trigger code again whenever you need me."
        sessionEnded := true }
      rfl rfl rfl rfl (by decide +kernel) (by decide +kernel)

end Desk

end Storekeeper
