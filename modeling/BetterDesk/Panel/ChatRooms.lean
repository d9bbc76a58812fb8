import BetterDesk.Panel.ChatRelay

/-! # Who is in a room -/

namespace BetterDesk.Panel.Chat
open List Option

namespace State
variable {s : State}

def kind (s : State) (ws : Ws) : Option (Role × String) := (s.sockets ws).map fun k => (k.role,k.device)

theorem agentOf_eq_some {ws : Ws} {d : String} : s.agentOf ws=some d ↔ s.kind ws=some (.agent,d) := by
  cases h : s.sockets ws with
  | none => simp [agentOf,kind,h]
  | some socket => cases hr : socket.role <;> simp [agentOf,kind,h,hr]

theorem agentOf_eq_none {ws : Ws} {e : String} (h : s.kind ws=some (.operator,e)) : s.agentOf ws=none := by
  cases ha : s.agentOf ws with
  | none => rfl
  | some d => rw [agentOf_eq_some,h] at ha; simp at ha

theorem find_putRoom (rooms : List (String × Room)) (d e : String) (room : Room) :
    (putRoom rooms d room).find? (fun x => x.1=e)
      = if e=d then some (d,room) else rooms.find? fun x => x.1=e := by
  induction rooms with
  | nil => simp [putRoom,eq_comm]
  | cons x rooms ih =>
    obtain ⟨k,r⟩:=x
    by_cases hk : k=d
    · subst hk
      by_cases h : k=e <;> simp [putRoom,h,eq_comm (a := e)]
    · by_cases h : k=e
      · subst h
        simp [putRoom,hk]
      · simp [putRoom,hk,h,ih]

theorem room_setRoom (d e : String) (room : Room) :
    (s.setRoom d room).room e = if e=d then some room else s.room e := by
  simp only [State.room,setRoom,find_putRoom]
  split <;> rfl

theorem getRoom_setRoom (d e : String) (room : Room) :
    (s.setRoom d room).getRoom e = if e=d then room else s.getRoom e := by
  simp only [getRoom,room_setRoom]
  split <;> rfl

@[simp] theorem kind_sendTo (ws : Ws) (f : Frame) : (s.sendTo ws f).kind=s.kind := by
  unfold sendTo
  split <;> rfl

@[simp] theorem kind_setPanel (l : List Ws) : (s.setPanel l).kind=s.kind := rfl

@[simp] theorem kind_ask (p : Pending) : (s.ask p).kind=s.kind := rfl

@[simp] theorem kind_setRoom (d : String) (room : Room) : (s.setRoom d room).kind=s.kind := rfl

@[simp] theorem getRoom_setSocket (ws : Ws) (socket : Socket) (d : String) :
    (s.setSocket ws socket).getRoom d=s.getRoom d := rfl

theorem kind_setSocket (ws v : Ws) (socket : Socket) :
    (s.setSocket ws socket).kind v = if v=ws then some (socket.role,socket.device) else s.kind v := by
  by_cases h : v=ws <;> simp [kind,setSocket,Function.update,h]

end State

def Request.By (d : String) : Request → Prop
  | .save m => m.from_=d
  | .mark _ readerId => readerId=d
  | .create _ _ createdBy => createdBy=d
  | _ => True

/-- A request is for the device of its socket, and what an agent makes is made by its device. -/
structure Pending.Kept (kind : Ws → Option (Role × String)) (p : Pending) : Prop where
  asker : ∃ role, kind p.ws=some (role,p.device)
  created : ∀ name members by_, p.request=.create name members by_ →
    kind p.ws=some (.agent,p.device) → by_=p.device
  author : ∀ d, p.author=some d → p.request.By d

structure Room.Kept (kind : Ws → Option (Role × String)) (device : String) (room : Room) : Prop where
  agent : ∀ ws, room.agentWs=some ws → kind ws=some (.agent,device)
  operator : ∀ ws∈room.operatorWss, ∃ e, kind ws=some (.operator,e)

structure Kept (s : State) : Prop where
  room : ∀ d, (s.getRoom d).Kept s.kind d
  panel : ∀ ws∈s.panelOperators, ∃ e, s.kind ws=some (.operator,e)
  pending : ∀ p∈s.pending,p.Kept s.kind

variable {kind : Ws → Option (Role × String)} {ws : Ws} {d : String} {p : Pending} {room : Room} {socket : Socket}

theorem Pending.Kept.mono {kind' : Ws → Option (Role × String)} (h : p.Kept kind)
    (hk : ∀ ws k, kind ws=some k → kind' ws=some k) : p.Kept kind' := by
  obtain ⟨role,hrole⟩:=h.asker
  refine ⟨⟨role,hk _ _ hrole⟩,fun name members by_ hr ha => ?_,h.author⟩
  rw [hk _ _ hrole] at ha
  exact h.created name members by_ hr (hrole.trans ha)

theorem Room.Kept.mono {kind' : Ws → Option (Role × String)} (h : room.Kept kind d)
    (hk : ∀ ws k, kind ws=some k → kind' ws=some k) : room.Kept kind' d := by
  constructor
  · intro ws hws
    exact hk _ _ (h.agent ws hws)
  · intro ws hws
    obtain ⟨e,he⟩:=h.operator ws hws
    exact ⟨e,hk _ _ he⟩

variable {s : State}

@[simp] theorem kept_record (l : List Entry) : Kept (s.record l) ↔ Kept s :=
  ⟨fun h => ⟨h.1,h.2,h.3⟩,fun h => ⟨h.1,h.2,h.3⟩⟩

@[simp] theorem kept_sendTo (ws : Ws) (f : Frame) : Kept (s.sendTo ws f) ↔ Kept s := by
  unfold State.sendTo
  split
  · exact kept_record _
  · exact Iff.rfl

@[simp] theorem kept_ask (p : Pending) : Kept (s.ask p) ↔ Kept s ∧ p.Kept s.kind := by
  constructor
  · intro h
    have hpending:=forall_mem_append.mp h.pending
    exact ⟨⟨h.room,h.panel,hpending.1⟩,hpending.2 p (mem_singleton_self p)⟩
  · intro h
    refine ⟨h.1.room,h.1.panel,forall_mem_append.mpr ⟨h.1.pending,?_⟩⟩
    intro q hq
    rw [mem_singleton.mp hq]
    exact h.2

theorem Kept.setPanel (h : Kept s) {l : List Ws} (hl : ∀ ws∈l, ∃ e, s.kind ws=some (.operator,e)) :
    Kept (s.setPanel l) := ⟨h.room,hl,h.pending⟩

@[simp] theorem kept_setStore (store : Store) : Kept (s.setStore store) ↔ Kept s :=
  ⟨fun h => ⟨h.1,h.2,h.3⟩,fun h => ⟨h.1,h.2,h.3⟩⟩

theorem Kept.setPending (h : Kept s) {l : List Pending} (hl : ∀ p∈l,p∈s.pending) : Kept (s.setPending l) :=
  ⟨h.room,h.panel,fun p hp => h.pending p (hl p hp)⟩

theorem Kept.setRoom (h : Kept s) (hr : room.Kept s.kind d) : Kept (s.setRoom d room) := by
  refine ⟨fun e => ?_,h.panel,h.pending⟩
  rw [State.getRoom_setRoom]
  split
  · subst e
    exact hr
  · exact h.room e

theorem Kept.setSocket (h : Kept s)
    (hk : ∀ k, s.kind ws=some k → k=(socket.role,socket.device)) : Kept (s.setSocket ws socket) := by
  have hmono : ∀ v k, s.kind v=some k → (s.setSocket ws socket).kind v=some k := by
    intro v k hv
    rw [State.kind_setSocket]
    split
    · subst v
      rw [hk k hv]
    · exact hv
  refine ⟨fun d => (h.room d).mono hmono,fun v hv => ?_,fun p hp => (h.pending p hp).mono hmono⟩
  obtain ⟨e,he⟩:=h.panel v hv
  exact ⟨e,hmono v _ he⟩

@[simp] theorem kept_sendAll (author : Option String) (l : List Ws) (f : Frame) :
    Kept (s.sendAll author l f) ↔ Kept s := kept_record _

@[simp] theorem kept_announce (d : String) (ex : Option Ws) (c : Bool) : Kept (s.announce d ex c) ↔ Kept s := by
  simp [State.announce]

theorem State.kind_closeOld (old : Option Ws) : (s.closeOld old).kind=s.kind := by
  funext v
  unfold closeOld
  split
  case h_1 ws =>
    split
    case h_1 socket hs =>
      split
      · rfl
      · rw [kind_setSocket]
        split
        · subst v
          simp [kind,hs]
        · rfl
    · rfl
  · rfl

theorem State.getRoom_closeOld (old : Option Ws) (d : String) : (s.closeOld old).getRoom d=s.getRoom d := by
  unfold closeOld
  split
  · split
    · split <;> rfl
    · rfl
  · rfl

theorem Kept.closeOld (h : Kept s) (old : Option Ws) : Kept (s.closeOld old) := by
  unfold State.closeOld
  split
  case h_1 ws =>
    split
    case h_1 socket hs =>
      split
      · exact h
      · refine h.setSocket fun k hk => ?_
        rw [State.kind,hs] at hk
        exact (Option.some.inj hk).symm
    · exact h
  · exact h

theorem Pending.Kept.of_agent (hk : kind p.ws=some (.agent,p.device)) (hby : p.request.By p.device)
    (ha : ∀ d, p.author=some d → d=p.device) : p.Kept kind := by
  refine ⟨⟨_,hk⟩,fun name members by_ hr _ => ?_,fun d hd => ?_⟩
  · rw [hr] at hby
    exact hby
  · rw [ha d hd]
    exact hby

theorem Pending.Kept.of_operator (hk : kind p.ws=some (.operator,p.device)) (ha : p.author=none) : p.Kept kind := by
  refine ⟨⟨_,hk⟩,fun name members by_ _ hagent => ?_,fun d hd => ?_⟩
  · rw [hk] at hagent
    simp at hagent
  · rw [ha] at hd
    cases hd

theorem State.kind_new (hn : s.sockets ws=none) : s.kind ws=none := by
  rw [kind,hn]
  rfl

theorem Kept.agentConnects (h : Kept s) (hn : s.sockets ws=none) (d : String) :
    Kept (s.handleAgentConnection ws d) := by
  have hjoined : Kept ((s.closeOld (s.getRoom d).agentWs).setSocket ws ⟨.agent,d,"",.open⟩) := by
    refine (h.closeOld _).setSocket fun k hk => ?_
    rw [State.kind_closeOld,State.kind_new hn] at hk
    cases hk
  have hkind : ((s.closeOld (s.getRoom d).agentWs).setSocket ws ⟨.agent,d,"",.open⟩).kind ws=some (.agent,d) := by
    rw [State.kind_setSocket,if_pos rfl]
  have hroom:=hjoined.room d
  rw [State.getRoom_setSocket,State.getRoom_closeOld] at hroom
  simp only [State.handleAgentConnection,kept_ask,kept_announce]
  refine ⟨⟨⟨hjoined.setRoom ⟨?_,hroom.operator⟩,?_⟩,?_⟩,?_⟩
  · intro v hv
    rw [← Option.some.inj hv]
    exact hkind
  · exact .of_agent hkind trivial (by simp)
  · exact .of_agent hkind trivial (by simp)
  · exact .of_agent hkind trivial (by simp)

theorem Kept.operatorConnects (h : Kept s) (hn : s.sockets ws=none) (d name : String) :
    Kept (s.handleOperatorConnection ws d name) := by
  have hjoined : Kept (s.setSocket ws ⟨.operator,d,name,.open⟩) := by
    refine h.setSocket fun k hk => ?_
    rw [State.kind_new hn] at hk
    cases hk
  have hkind : (s.setSocket ws ⟨.operator,d,name,.open⟩).kind ws=some (.operator,d) := by
    rw [State.kind_setSocket,if_pos rfl]
  have hroom:=hjoined.room d
  rw [State.getRoom_setSocket] at hroom
  have hin : Kept ((s.setSocket ws ⟨.operator,d,name,.open⟩).setRoom d
      {s.getRoom d with operatorWss := (s.getRoom d).operatorWss++[ws]}) := by
    refine hjoined.setRoom ⟨hroom.agent,fun v hv => ?_⟩
    obtain hv | hv:=mem_append.mp hv
    · exact hroom.operator v hv
    · rw [mem_singleton.mp hv]
      exact ⟨d,hkind⟩
  unfold State.handleOperatorConnection
  split
  · simp only [kept_ask,kept_sendTo]
    refine ⟨⟨hin.setPanel fun v hv => ?_,?_⟩,?_⟩
    · obtain hv | hv:=mem_append.mp hv
      · exact hin.panel v hv
      · rw [mem_singleton.mp hv]
        exact ⟨d,hkind⟩
    · exact .of_operator (by simpa using hkind) rfl
    · exact .of_operator (by simpa using hkind) rfl
  · simp only [kept_ask,kept_sendTo]
    exact ⟨hin,.of_operator (by simpa using hkind) rfl⟩

@[simp] theorem Room.agentWs_append (room : Room) (m : Said) : (room.append m).agentWs=room.agentWs := by
  simp only [append]

@[simp] theorem Room.operatorWss_append (room : Room) (m : Said) : (room.append m).operatorWss=room.operatorWss := by
  simp only [append]

theorem Room.Kept.append (h : room.Kept kind d) (m : Said) : (room.append m).Kept kind d := by
  constructor
  · simpa only [Room.agentWs_append] using h.agent
  · simpa only [Room.operatorWss_append] using h.operator

theorem Room.Kept.alone (h : room.Kept kind d) : Room.Kept kind d {room with agentWs := none} := by
  refine ⟨fun ws hws => ?_,h.operator⟩
  cases hws

theorem Room.Kept.without (h : room.Kept kind d) (ws : Ws) :
    Room.Kept kind d {room with operatorWss := room.operatorWss.filter (·≠ws)} :=
  ⟨h.agent,fun v hv => h.operator v (mem_filter.mp hv).1⟩

theorem Kept.agentSays (h : Kept s) {m : Said} (hk : s.kind ws=some (.agent,m.from_)) : Kept (s.agentSays ws m) := by
  unfold State.agentSays
  by_cases hm : m.type=.message
  · simp only [hm,if_true,kept_ask,kept_sendAll]
    refine ⟨h.setRoom ((h.room _).append m),.of_agent hk rfl fun d hd => ?_⟩
    exact (Option.some.inj hd).symm
  · simpa only [hm,if_false,kept_sendAll] using h

theorem Kept.ask (h : Kept s) (hp : p.Kept s.kind) : Kept (s.ask p) := (kept_ask p).mpr ⟨h,hp⟩

theorem State.kind_agentSays (ws : Ws) (m : Said) : (s.agentSays ws m).kind=s.kind := by
  unfold agentSays
  split <;> rfl

theorem Kept.agentFrame (h : Kept s) (hk : s.kind ws=some (.agent,d)) (frame : ClientFrame)
    (now : ℕ) : Kept (s.agentFrame ws d frame now) := by
  cases frame with
  | hello => exact (kept_sendTo ws _).mpr h
  | said type conversationId fromName payload =>
    have hsays : Kept (s.agentSays ws (State.agentSaid d type conversationId fromName payload now)) := h.agentSays hk
    simp only [State.agentFrame]
    split
    · refine hsays.ask (.of_agent ?_ rfl fun e he => (Option.some.inj he).symm)
      rw [State.kind_agentSays]
      exact hk
    · exact hsays
  | getContacts | getHistory => exact h.ask (.of_agent hk trivial (by simp))
  | getGroups | unknown => exact h
  | markRead conversationId =>
    simp only [State.agentFrame]
    split
    · exact h.ask (.of_agent hk rfl fun e he => (Option.some.inj he).symm)
    · exact h
  | createGroup name memberIds =>
    cases memberIds with
    | none => exact h
    | some members =>
      simp only [State.agentFrame]
      split
      · exact h.ask (.of_agent hk rfl fun e he => (Option.some.inj he).symm)
      · exact h
  | presenceUpdate => exact (kept_sendAll _ _ _).mpr h

theorem Kept.operatorSays (h : Kept s) {m : Said} (hk : s.kind ws=some (.operator,d)) :
    Kept (s.operatorSays ws d m) := by
  unfold State.operatorSays
  by_cases hm : m.type=.message
  · simp only [hm,if_true,kept_ask,kept_sendTo,kept_sendAll]
    refine ⟨h.setRoom ((h.room _).append m),.of_operator ?_ rfl⟩
    rw [State.kind_sendTo]
    exact hk
  · simpa only [hm,if_false,kept_sendAll] using h

theorem State.kind_operatorSays (ws : Ws) (d : String) (m : Said) : (s.operatorSays ws d m).kind=s.kind := by
  unfold operatorSays
  split
  · rw [kind_ask,kind_sendTo]
    rfl
  · rfl

theorem Kept.operatorFrame (h : Kept s) (hk : s.kind ws=some (.operator,d)) (name : String)
    (frame : ClientFrame) (now : ℕ) : Kept (s.operatorFrame ws d name frame now) := by
  cases frame with
  | hello => exact (kept_sendTo ws _).mpr h
  | said type conversationId fromName payload =>
    have hsays : Kept (s.operatorSays ws d (State.operatorSaid d name type conversationId payload now)) :=
      h.operatorSays hk
    simp only [State.operatorFrame]
    split
    · refine hsays.ask (.of_operator ?_ rfl)
      rw [State.kind_operatorSays]
      exact hk
    · exact hsays
  | getContacts | getGroups | getHistory => exact h.ask (.of_operator hk rfl)
  | markRead conversationId =>
    simp only [State.operatorFrame]
    split
    · exact h.ask (.of_operator hk rfl)
    · exact h
  | createGroup name memberIds =>
    cases memberIds with
    | none => exact h
    | some members =>
      simp only [State.operatorFrame]
      split
      · exact h.ask (.of_operator hk rfl)
      · exact h
  | presenceUpdate => exact (kept_sendAll _ _ _).mpr h
  | unknown => exact h

theorem Kept.done (h : Kept s) (store : Store) (author : Option String) (act : Act) :
    Kept ((s.setStore store).done author act) := (kept_record _).mpr ((kept_setStore store).mpr h)

theorem Pending.Kept.groups (h : p.Kept kind) :
    Pending.Kept kind ⟨p.ws,p.device,.groups p.device,.falsy,.nothing,none⟩ := by
  refine ⟨h.asker,?_,?_⟩
  · simp
  · simp

theorem Kept.answer (h : Kept s) (hp : p.Kept s.kind) (ok : Bool) (tag : String) (now : ℕ) :
    Kept (s.answer p ok tag now) := by
  have hsent (f : Frame) : Kept (s.sendTo p.ws f) := (kept_sendTo p.ws f).mpr h
  unfold State.answer
  cases p.request with
  | history c =>
    dsimp only
    split
    · exact hsent _
    · split
      · exact hsent _
      · split
        · exact hsent _
        · exact h
  | contacts id =>
    dsimp only
    generalize (if ok=true then s.store.handleChatContacts id else [])=found
    split
    · exact hsent _
    · split <;> exact hsent _
  | groups id =>
    dsimp only
    split
    · exact hsent _
    · exact h
  | save m =>
    dsimp only [State.saveMessage]
    split
    · split
      · exact h.done _ _ _
      · exact h
    · exact h
  | mark c r =>
    dsimp only [State.markRead]
    split
    · split
      · split
        · exact h.done _ _ _
        · exact h
      · exact h
    · exact h
  | create name members by_ =>
    dsimp only [State.createGroup]
    split
    · refine Kept.ask ((kept_sendTo _ _).mpr (h.done _ _ _)) ?_
      rw [State.kind_sendTo]
      exact hp.groups
    · exact h

theorem Kept.closes (h : Kept s) (hs : s.sockets ws=some socket) : Kept (s.closes ws socket) := by
  have hclosed : Kept (s.setSocket ws {socket with ready := .closed}) := by
    refine h.setSocket fun k hk => ?_
    rw [State.kind,hs] at hk
    exact (Option.some.inj hk).symm
  have hroom:=hclosed.room socket.device
  unfold State.closes
  dsimp only
  split
  · split
    · exact (kept_announce _ _ _).mpr (hclosed.setRoom hroom.alone)
    · exact hclosed
  · exact (hclosed.setRoom (hroom.without ws)).setPanel fun v hv => hclosed.panel v (mem_filter.mp hv).1

theorem State.kind_of_socket (hs : s.sockets ws=some socket) : s.kind ws=some (socket.role,socket.device) := by
  rw [kind,hs]
  rfl

theorem step_frame {frame : ClientFrame} {now : ℕ} {t : State} :
    step s (.frame ws frame now)=some t ↔ ∃ socket, s.sockets ws=some socket ∧ socket.ready ≠ .closed ∧
      t=(match socket.role with
        | .agent => s.agentFrame ws socket.device frame now
        | .operator => s.operatorFrame ws socket.device socket.name frame now) := by
  cases hs : s.sockets ws with
  | none => simp [step,hs]
  | some socket =>
    by_cases hc : socket.ready=.closed
    · simp [step,hs,hc]
    · cases hr : socket.role <;> simp [step,hs,hc,hr,eq_comm (a := t)]

theorem kept_step {a : Event} {t : State} (h : Kept s) (ht : step s a=some t) : Kept t := by
  cases a with
  | agentConnects ws device =>
    simp only [step,ite_none_right_eq_some,some.injEq] at ht
    rw [← ht.2]
    exact h.agentConnects ht.1 device
  | operatorConnects ws device name =>
    simp only [step,ite_none_right_eq_some,some.injEq] at ht
    rw [← ht.2]
    exact h.operatorConnects ht.1 device name
  | frame ws frame now =>
    obtain ⟨socket,hs,-,rfl⟩:=step_frame.mp ht
    have hk:=State.kind_of_socket hs
    split
    case h_1 hr => exact h.agentFrame (hr ▸ hk) frame now
    case h_2 hr => exact h.operatorFrame (hr ▸ hk) socket.name frame now
  | answered i ok tag now =>
    obtain ⟨p,hp,rfl⟩:=map_eq_some_iff.mp ht
    have hrest : Kept (s.setPending (s.pending.eraseIdx i)) := h.setPending fun q hq => mem_of_mem_eraseIdx hq
    exact hrest.answer (h.pending p (mem_of_getElem? hp)) ok tag now
  | closes ws =>
    simp only [step] at ht
    split at ht
    case h_1 socket hs =>
      obtain ⟨-,ht⟩:=ite_none_left_eq_some.mp ht
      rw [← Option.some.inj ht]
      exact h.closes hs
    · cases ht
  | groupsChange | directoryChanges =>
    rw [← Option.some.inj ht]
    exact (kept_setStore _).mpr h

end BetterDesk.Panel.Chat
