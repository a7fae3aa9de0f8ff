import ToastRelay.Proofs.Sender.Postings

/-!
# What each target leaves behind

The targets of a notification take turns. In its turn a target leaves its place in the report, the
toast that the provider receives for it, and records in the log: that its toast goes out, if there is
something to send, and why it is skipped. All of this is decided by the provider as it is when the
turn comes. So the turns of one list behind another are those of the second list at the provider that
the first one leaves.
-/

namespace ToastRelay
set_option autoImplicit false

/-- What a client makes of a request to a provider. -/
def Provider.answer (p : Provider) (o : Outgoing) : Except ClientFault Response :=
  if o.uri.scheme.isNone || o.uri.authority.isEmpty then .error .notAbsolute
  else if p.refused.contains (String.ofList o.uri.authority) then .error .refused
  else (p.reply o.uri.text).received

/-- The provider decides what sending a request gives, and nothing is logged of it. -/
theorem Surroundings.send_answer (o : Outgoing) (w : Surroundings) :
    (send o w).1 = w.provider.answer o ∧ (send o w).2.log = w.log := by
  unfold send Provider.answer
  dsimp only
  split
  · exact ⟨rfl, rfl⟩
  · split
    · exact ⟨rfl, rfl⟩
    · exact ⟨rfl, rfl⟩

/-- What became of a target, and what was logged of it. -/
structure Turn extends Posting where
  records : List LogRecord

def SendReport.ofTurns (xs : List Turn) : SendReport := ofPostings (xs.map (·.toPosting))

theorem SendReport.ofTurns_eq (xs : List Turn) :
    ofTurns xs = ⟨(xs.filter (·.delivered)).map (·.target),
      (xs.filter (!·.delivered)).map (·.target)⟩ := by
  rw [ofTurns, ofPostings, List.filter_map, List.filter_map, List.map_map, List.map_map]
  rfl

theorem SendReport.ofTurns_cons (x : Turn) (xs : List Turn) :
    ofTurns (x :: xs) = (ofTurns xs).add x.target x.delivered := ofPostings_cons x.toPosting _

theorem SendReport.ofTurns_append (xs ys : List Turn) :
    ofTurns (xs ++ ys) = ⟨(ofTurns xs).delivered ++ (ofTurns ys).delivered,
      (ofTurns xs).skipped ++ (ofTurns ys).skipped⟩ := by
  simp only [ofTurns, ofPostings, List.map_append, List.filter_append]

namespace Surroundings

def passing (w : Surroundings) (xs : List Turn) : Surroundings :=
  { w.receiving (xs.filterMap (·.toast?)) with log := w.log ++ xs.flatMap (·.records) }

theorem passing_nil (w : Surroundings) : w.passing [] = w := by
  rw [passing, List.filterMap_nil, List.flatMap_nil, w.receiving_nil, List.append_nil]

theorem provider_passing (w : Surroundings) (xs : List Turn) :
    (w.passing xs).provider = w.provider.afterAll (xs.filterMap (·.toast?)) := rfl

theorem passing_append (w : Surroundings) (xs ys : List Turn) :
    w.passing (xs ++ ys) = (w.passing xs).passing ys := by
  simp only [passing, receiving, List.filterMap_append, List.flatMap_append,
    Provider.afterAll_append, List.append_assoc]

theorem passing_cons (w : Surroundings) (x : Turn) (xs : List Turn) :
    w.passing (x :: xs) = (w.passing [x]).passing xs := w.passing_append [x] xs

end Surroundings

namespace Sender

def announcement (channel : String) : LogRecord := ⟨.debug, .sender, "posting toast to " ++ channel⟩

def complaint (e : RelayError) : LogRecord := ⟨.error, .sender, e.text⟩

def records (p : Provider) (authorization document target : String) : Option String → List LogRecord
  | none => [complaint (.unknownTarget target)]
  | some channel =>
    match requestFor channel authorization document with
    | .error f => [complaint (.delivery channel f.text)]
    | .ok o => announcement channel :: match outcomeOf (p.answer o) with
      | .error f => [complaint (.delivery channel f.text)]
      | .ok () => []

variable {authorization document channel : String}

theorem post_of_request {o : Outgoing} (h : requestFor channel authorization document = .ok o)
    (w : Surroundings) :
    (post channel authorization document w).1 = outcomeOf (w.provider.answer o) ∧
      (post channel authorization document w).2.log = w.log ++ [announcement channel] := by
  obtain ⟨hanswer, hlog⟩ := Surroundings.send_answer o
    (Surroundings.record .debug .sender ("posting toast to " ++ channel) w).2
  rw [post, h]
  exact ⟨congrArg outcomeOf hanswer, hlog⟩

theorem log_deliver (authorization document target : String) (channel? : Option String)
    (w : Surroundings) : (deliver authorization document target channel? w).2.log =
      w.log ++ records w.provider authorization document target channel? := by
  cases channel? with
  | none => rfl
  | some channel =>
    rw [deliver, Act.bind_apply, records]
    cases hrequest : requestFor channel authorization document with
    | error f =>
      rw [post, hrequest]
      rfl
    | ok o =>
      obtain ⟨hresult, hlog⟩ := post_of_request hrequest w
      cases hpost : post channel authorization document w with
      | mk result w' =>
      rw [hpost] at hresult hlog
      dsimp only at hresult hlog ⊢
      rw [← hresult]
      cases result with
      | ok u => exact hlog
      | error f =>
        change w'.log ++ [complaint (.delivery channel f.text)] = _
        rw [hlog, List.append_assoc]
        rfl

def turn (p : Provider) (authorization document target : String) (channel? : Option String) :
    Turn :=
  ⟨posting p authorization document target channel?,
    records p authorization document target channel?⟩

def turns (authorization document : String) : Provider → List (String × Option String) → List Turn
  | _, [] => []
  | p, (target, channel?) :: more =>
    let x := turn p authorization document target channel?
    x :: turns authorization document (p.afterAll x.toast?.toList) more

theorem deliver_eq_turn (authorization document target : String) (channel? : Option String)
    (w : Surroundings) :
    let x := turn w.provider authorization document target channel?
    deliver authorization document target channel? w = (x.delivered, w.passing [x]) := by
  intro x
  obtain ⟨log, hdeliver⟩ := deliver_eq authorization document target channel? w
  have hlog := log_deliver authorization document target channel? w
  rw [hdeliver] at hlog ⊢
  dsimp only at hlog
  rw [hlog, Surroundings.passing, filterMap_cons_toList, List.flatMap_singleton,
    List.filterMap_nil, List.append_nil]
  rfl

theorem deliverAll_eq_turns (authorization document : String)
    (targets : List (String × Option String)) (w : Surroundings) :
    let xs := turns authorization document w.provider targets
    deliverAll authorization document targets w = (.ofTurns xs, w.passing xs) := by
  induction targets generalizing w with
  | nil => exact Prod.ext rfl w.passing_nil.symm
  | cons t targets ih =>
    obtain ⟨target, channel?⟩ := t
    rw [turns]
    set x := turn w.provider authorization document target channel? with hx
    have hprovider : (w.passing [x]).provider = w.provider.afterAll x.toast?.toList := by
      rw [w.provider_passing, filterMap_cons_toList, List.filterMap_nil, List.append_nil]
    have hmore := ih (w.passing [x])
    rw [hprovider] at hmore
    rw [deliverAll, Act.bind_apply, deliver_eq_turn, Act.bind_apply, ← hx, hmore]
    exact Prod.ext (SendReport.ofTurns_cons x _).symm (w.passing_cons x _).symm

theorem turns_append (authorization document : String) (p : Provider)
    (ts ts' : List (String × Option String)) :
    turns authorization document p (ts ++ ts') =
      turns authorization document p ts ++ turns authorization document
        (p.afterAll ((turns authorization document p ts).filterMap (·.toast?))) ts' := by
  induction ts generalizing p with
  | nil => rfl
  | cons t ts ih =>
    obtain ⟨target, channel?⟩ := t
    rw [List.cons_append, turns, turns, ih, filterMap_cons_toList, Provider.afterAll_append,
      List.cons_append]

theorem map_toPosting_turns (authorization document : String) (p : Provider)
    (targets : List (String × Option String)) :
    (turns authorization document p targets).map (·.toPosting) =
      postings authorization document p targets := by
  induction targets generalizing p with
  | nil => rfl
  | cons t targets ih =>
    obtain ⟨target, channel?⟩ := t
    rw [turns, postings, List.map_cons, ih]
    rfl

theorem map_target_turns (authorization document : String) (p : Provider)
    (targets : List (String × Option String)) :
    (turns authorization document p targets).map (·.target) = targets.map (·.1) := by
  rw [← map_target_postings authorization document p, ← map_toPosting_turns, List.map_map]
  rfl

/-- In its turn a target meets the provider after the toasts for the targets before it. -/
theorem exists_of_turns_eq {p : Provider} {targets : List (String × Option String)}
    {earlier later : List Turn} {x : Turn}
    (h : turns authorization document p targets = earlier ++ x :: later) :
    ∃ t ∈ targets, x = turn (p.afterAll (earlier.filterMap (·.toast?)))
      authorization document t.1 t.2 := by
  induction earlier generalizing p targets with
  | nil =>
    cases targets with
    | nil => cases h
    | cons t targets => exact ⟨t, List.mem_cons_self, (List.cons.inj h).1.symm⟩
  | cons y earlier ih =>
    cases targets with
    | nil => cases h
    | cons t targets =>
      obtain ⟨hy, hmore⟩ := List.cons.inj h
      obtain ⟨t', ht', hx⟩ := ih hmore
      refine ⟨t', List.mem_cons_of_mem t ht', ?_⟩
      rw [hx, hy, ← Provider.afterAll_append, filterMap_cons_toList]

theorem exists_of_postings_eq {p : Provider} {targets : List (String × Option String)}
    {earlier later : List Posting} {x : Posting}
    (h : postings authorization document p targets = earlier ++ x :: later) :
    ∃ t ∈ targets, x = posting (p.afterAll (earlier.filterMap (·.toast?)))
      authorization document t.1 t.2 := by
  rw [← map_toPosting_turns] at h
  obtain ⟨before, behind, hturns, rfl, hbehind⟩ := List.map_eq_append_iff.mp h
  obtain ⟨y, after, rfl, rfl, -⟩ := List.map_eq_cons_iff.mp hbehind
  obtain ⟨t, ht, rfl⟩ := exists_of_turns_eq hturns
  refine ⟨t, ht, ?_⟩
  rw [List.filterMap_map]
  rfl

section Send
variable (rs : Registrations) (n : Notification) {source source' : TokenSource}
  {w w₁ : Surroundings} {token : String}

theorem send_of_token_turns (h : source.token w = ((.ok token, source'), w₁)) :
    let xs := turns (ToastRelay.authorization token) n.document w₁.provider
      (rs.channelsFor (n.targets.getD []))
    send rs n source w = ((.ok (.ofTurns xs), source'), w₁.passing xs) := by
  rw [send, Act.bind_apply, h]
  dsimp only
  rw [Act.bind_apply, deliverAll_eq_turns]
  rfl

theorem send_of_token (h : source.token w = ((.ok token, source'), w₁)) :
    let xs := postings (ToastRelay.authorization token) n.document w₁.provider
      (rs.channelsFor (n.targets.getD []))
    ∃ log, send rs n source w = ((.ok (.ofPostings xs), source'),
      { w₁.receiving (xs.filterMap (·.toast?)) with log := log }) := by
  rw [send_of_token_turns rs n h, ← map_toPosting_turns]
  dsimp only
  rw [List.filterMap_map]
  exact ⟨_, rfl⟩

end Send

end Sender

end ToastRelay
