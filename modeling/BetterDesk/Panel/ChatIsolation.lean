import BetterDesk.Panel.ChatRooms

/-! # Whose chat reaches whom -/

namespace BetterDesk.Panel.Chat
open Exec List Option

def Own (groups : List ChatGroup) (d : String) (c : Value) : Prop :=
  c=.str d ∨ ∃ g∈groups,c=.str g.id ∧ d∈g.memberIds

def SaidFor (groups : List ChatGroup) (d : String) (m : Said) : Prop :=
  m.operator=none ∧ m.from_=d ∨ Own groups d m.conversationId

def FrameFor (groups : List ChatGroup) (d : String) : Frame → Prop
  | .welcome device _ => device=d
  | .status .. | .presence .. => True
  | .said m => SaidFor groups d m
  | .history of _ _ => Own groups d (.str of)
  | .memory _ messages => ∀ m∈messages,SaidFor groups d m
  | .contacts of _ => of=d
  | .groups l => ∀ g∈l,d∈g.memberIds
  | .groupCreated g => g.createdBy=d

/-- What comes from an agent is from its device, and in one of its conversations. -/
def ActOf (groups : List ChatGroup) (d : String) : Act → Prop
  | .sent _ (.said m) => m.from_=d ∧ Own groups d m.conversationId
  | .sent _ (.presence device _ _ _) => device=d
  | .sent _ _ => True
  | .saved conversationId fromId => fromId=d ∧ Own groups d (.str conversationId)
  | .marked conversationId readerId => readerId=d ∧ Own groups d (.str conversationId)
  | .created createdBy => createdBy=d

def Act.For (groups : List ChatGroup) (d : String) : Act → Prop
  | .sent _ frame => FrameFor groups d frame
  | _ => True

structure Entry.Isolated (x : Entry) : Prop where
  receiver : ∀ d, x.receiver=some d → x.act.For x.groups d
  author : ∀ d, x.author=some d → ActOf x.groups d x.act

def Isolated (s : State) : Prop := ∀ x∈s.log,x.Isolated

/-- The answer to an agent is of its own conversation or list, and what is written for an agent is
written in its own conversations. -/
structure AnswerOk (s : State) (p : Pending) (ok : Bool) : Prop where
  history : ∀ d c, s.isOpen p.ws=true → s.agentOf p.ws=some d → p.request=.history c →
    if ok=true then Own s.store.groups d (.str c)
    else p.fallback=.memory ∨ p.fallback=.conversation →
      ∀ m∈(s.getRoom p.device).messages, SaidFor s.store.groups d m
  contacts : ∀ d id, s.isOpen p.ws=true → s.agentOf p.ws=some d → p.request=.contacts id → ok=true →
    s.store.handleChatContacts id≠[] → id=d
  groups : ∀ d id, s.isOpen p.ws=true → s.agentOf p.ws=some d → p.request=.groups id → ok=true →
    ∀ g∈s.store.listChatGroups id, d∈g.memberIds
  saved : ∀ d m c n, p.author=some d → p.request=.save m → ok=true → State.savable m=some (c,n) →
    Own s.store.groups d (.str c)
  marked : ∀ d c r, p.author=some d → p.request=.mark (.str c) r → ok=true → c≠"" → r≠"" →
    Own s.store.groups d (.str c)

/-- What an agent says to anybody is said in one of its conversations. -/
structure SaysOk (s : State) (ws : Ws) (socket : Socket) (type : Talk) (conversationId : Value) : Prop where
  agent : socket.role=.agent → s.agentReceivers ws socket.device≠[] →
    Own s.store.groups socket.device (conversationId.orElse (State.agentConversation type socket.device))
  operator : socket.role=.operator → socket.device≠State.panel →
    s.targetRoom socket.device (conversationId.orElse socket.device)=none →
    (s.getRoom socket.device).agentWs.any s.isOpen=true →
    Own s.store.groups socket.device (conversationId.orElse socket.device)

def StepOk (s : State) : Event → Prop
  | .frame ws (.said type conversationId _ _) _ =>
    ∀ socket, s.sockets ws=some socket → socket.ready ≠ .closed → SaysOk s ws socket type conversationId
  | .answered i ok _ _ => ∀ p, s.pending[i]?=some p → AnswerOk s p ok
  | _ => True

variable {s : State}

def MaySend (s : State) (ws : Ws) (f : Frame) : Prop := ∀ d, s.agentOf ws=some d → FrameFor s.store.groups d f

variable {ws : Ws} {d : String} {ex : Option Ws} {f : Frame} {m : Said} {p : Pending}

theorem maySend_agent (hk : s.kind ws=some (.agent,d)) : MaySend s ws f ↔ FrameFor s.store.groups d f := by
  simp [MaySend,State.agentOf_eq_some,hk]

theorem maySend_operator {e : String} (hk : s.kind ws=some (.operator,e)) : MaySend s ws f := by
  intro d hd
  rw [State.agentOf_eq_none hk] at hd
  cases hd

theorem isolated_record (l : List Entry) : Isolated (s.record l) ↔ Isolated s ∧ ∀ x∈l,x.Isolated :=
  forall_mem_append

theorem isolated_sendTo (ws : Ws) (f : Frame) :
    Isolated (s.sendTo ws f) ↔ Isolated s ∧ (s.isOpen ws=true → MaySend s ws f) := by
  unfold State.sendTo
  split
  case isTrue ho =>
    rw [isolated_record,forall_mem_singleton]
    refine and_congr_right fun _ => ⟨fun h _ => h.receiver,fun h => ⟨h ho,?_⟩⟩
    intro d hd
    cases hd
  case isFalse ho => simp [ho]

theorem isolated_sendAll (author : Option String) (l : List Ws) (f : Frame) :
    Isolated (s.sendAll author l f) ↔ Isolated s ∧
      ∀ ws∈l,MaySend s ws f ∧ ∀ d, author=some d → ActOf s.store.groups d (.sent ws f) := by
  rw [State.sendAll,isolated_record,List.forall_mem_map]
  exact and_congr_right fun _ => forall₂_congr fun ws _ => ⟨fun h => ⟨h.1,h.2⟩,fun h => ⟨h.1,h.2⟩⟩

theorem isolated_done (author : Option String) (act : Act) :
    Isolated (s.done author act) ↔ Isolated s ∧ ∀ d, author=some d → ActOf s.store.groups d act := by
  rw [State.done,isolated_record,forall_mem_singleton]
  refine and_congr_right fun _ => ⟨fun h => h.2,fun h => ⟨?_,h⟩⟩
  intro d hd
  cases hd

@[simp] theorem isolated_ask (p : Pending) : Isolated (s.ask p) ↔ Isolated s := Iff.rfl

@[simp] theorem isolated_setRoom (d : String) (room : Room) : Isolated (s.setRoom d room) ↔ Isolated s := Iff.rfl

@[simp] theorem isolated_setSocket (ws : Ws) (socket : Socket) : Isolated (s.setSocket ws socket) ↔ Isolated s := Iff.rfl

@[simp] theorem isolated_setStore (store : Store) : Isolated (s.setStore store) ↔ Isolated s := Iff.rfl

@[simp] theorem isolated_closeOld (old : Option Ws) : Isolated (s.closeOld old) ↔ Isolated s := by
  unfold State.closeOld
  split
  · split
    · split <;> rfl
    · rfl
  · rfl

theorem isolated_announce (d : String) (ex : Option Ws) (c : Bool) : Isolated (s.announce d ex c) ↔ Isolated s := by
  simp only [State.announce,isolated_sendAll]
  simp [MaySend,FrameFor,ActOf]

theorem mem_inRoom {room : Room} :
    ws∈s.inRoom room ex ↔ (room.agentWs=some ws ∨ ws∈room.operatorWss) ∧ ex≠some ws ∧ s.isOpen ws=true := by
  rw [State.inRoom,mem_filter,mem_append]
  simp

theorem Kept.maySend_inPanel (h : Kept s) {room : Option Room} (hws : ws∈s.inPanel ex room)
    (f : Frame) : MaySend s ws f := by
  obtain ⟨e,he⟩:=h.panel ws (mem_filter.mp hws).1
  exact maySend_operator he

theorem Kept.maySend_inRoom (h : Kept s)
    (ha : ∀ ws, (s.getRoom d).agentWs=some ws → ex≠some ws → s.isOpen ws=true → FrameFor s.store.groups d f)
    (hws : ws∈s.inRoom (s.getRoom d) ex) : MaySend s ws f := by
  obtain ⟨hin,hex,ho⟩:=mem_inRoom.mp hws
  obtain hin | hin:=hin
  · exact (maySend_agent ((h.room d).agent ws hin)).mpr (ha ws hin hex ho)
  · obtain ⟨e,he⟩:=(h.room d).operator ws hin
    exact maySend_operator he

theorem Kept.maySend_agentReceivers (h : Kept s) (hf : FrameFor s.store.groups d f) {v : Ws}
    (hv : v∈s.agentReceivers ws d) : MaySend s v f := by
  obtain hv | hv:=mem_append.mp hv
  · exact h.maySend_inRoom (fun _ _ _ _ => hf) hv
  · exact h.maySend_inPanel hv f

theorem Kept.isolated_agentSays (h : Kept s) (ws : Ws) (hm : m.operator=none) : Isolated (s.agentSays ws m) ↔
      Isolated s ∧ (s.agentReceivers ws m.from_≠[] → Own s.store.groups m.from_ m.conversationId) := by
  have hfor : FrameFor s.store.groups m.from_ (.said m) := Or.inl ⟨hm,rfl⟩
  have hsent (t : State) (ht : Isolated t ↔ Isolated s) (hk : t.agentOf=s.agentOf) (hg : t.store=s.store) :
      Isolated (t.sendAll (some m.from_) (s.agentReceivers ws m.from_) (.said m)) ↔
        Isolated s ∧ (s.agentReceivers ws m.from_≠[] → Own s.store.groups m.from_ m.conversationId) := by
    rw [isolated_sendAll,ht,hg]
    refine and_congr_right fun _ => ⟨fun hall hne => ?_,fun hown v hv => ⟨?_,fun d hd => ?_⟩⟩
    · obtain ⟨v,hv⟩:=exists_mem_of_ne_nil _ hne
      exact ((hall v hv).2 _ rfl).2
    · have := h.maySend_agentReceivers hfor hv
      rwa [MaySend,hk,hg]
    · cases hd
      exact ⟨rfl,hown (ne_nil_of_mem hv)⟩
  unfold State.agentSays
  split
  · exact hsent _ Iff.rfl rfl rfl
  · exact hsent _ Iff.rfl rfl rfl

theorem Kept.isolated_agentFrame (h : Kept s) (hi : Isolated s)
    (hk : s.kind ws=some (.agent,d)) (frame : ClientFrame) (now : ℕ) :
    Isolated (s.agentFrame ws d frame now) ↔ ∀ type conversationId fromName payload,
      frame=.said type conversationId fromName payload → s.agentReceivers ws d≠[] →
        Own s.store.groups d (conversationId.orElse (State.agentConversation type d)) := by
  cases frame with
  | hello =>
    refine iff_of_true ?_ (by simp)
    exact (isolated_sendTo _ _).mpr ⟨hi,fun _ => (maySend_agent hk).mpr rfl⟩
  | said type conversationId fromName payload =>
    have hsays:=h.isolated_agentSays ws (m := State.agentSaid d type conversationId fromName payload now) rfl
    have hframe : Isolated (s.agentFrame ws d (.said type conversationId fromName payload) now) ↔
        Isolated (s.agentSays ws (State.agentSaid d type conversationId fromName payload now)) := by
      simp only [State.agentFrame]
      split <;> rfl
    rw [hframe, hsays]
    constructor
    · intro hown type' conversationId' fromName' payload' he
      cases he
      exact hown.2
    · intro hown
      exact ⟨hi,hown type conversationId fromName payload rfl⟩
  | getContacts | getGroups | getHistory | unknown => exact iff_of_true hi (by simp)
  | markRead conversationId =>
    refine iff_of_true ?_ (by simp)
    simp only [State.agentFrame]
    split <;> exact hi
  | createGroup name memberIds =>
    refine iff_of_true ?_ (by simp)
    cases memberIds with
    | none => exact hi
    | some members =>
      simp only [State.agentFrame]
      split <;> exact hi
  | presenceUpdate online status =>
    refine iff_of_true ?_ (by simp)
    have hfor : FrameFor s.store.groups d (.presence d online status now) := trivial
    refine (isolated_sendAll _ _ _).mpr ⟨hi,fun v hv => ⟨h.maySend_agentReceivers hfor hv,fun e he => ?_⟩⟩
    exact Option.some.inj he

theorem room_of_targetRoom {conversationId : Value} {room : Room} (h : s.targetRoom d conversationId=some room) :
    ∃ e, conversationId=.str e ∧ s.getRoom e=room := by
  unfold State.targetRoom at h
  split at h
  · cases h
  · cases conversationId with
    | falsy => cases h
    | other => cases h
    | str e =>
      refine ⟨e,rfl,?_⟩
      rw [State.getRoom,show s.room e=some room from h]
      rfl

theorem Kept.isolated_operatorReceivers (h : Kept s) (hk : s.kind ws=some (.operator,d))
    (hm : m.operator≠none) : (∀ v∈s.operatorReceivers ws d m.conversationId, MaySend s v (.said m)) ↔
      (d≠State.panel → s.targetRoom d m.conversationId=none → (s.getRoom d).agentWs.any s.isOpen=true →
        Own s.store.groups d m.conversationId) := by
  have hfor (e : String) : FrameFor s.store.groups e (.said m) ↔ Own s.store.groups e m.conversationId :=
    or_iff_right fun hs => hm hs.1
  unfold State.operatorReceivers
  cases ht : s.targetRoom d m.conversationId with
  | some room =>
    obtain ⟨e,he,rfl⟩:=room_of_targetRoom ht
    refine iff_of_true (fun v hv => h.maySend_inRoom (fun _ _ _ _ => ?_) hv) (by simp)
    exact (hfor e).mpr (Or.inl he)
  | none =>
    by_cases hd : d=State.panel
    · simp only [hd,if_true]
      exact iff_of_true (fun v hv => h.maySend_inPanel hv _) (by simp)
    · simp only [hd,if_false]
      constructor
      · intro hall _ _ ho
        obtain ⟨v,hv,ho⟩:=(any_eq_true _ _).mp ho
        have hagent:=(h.room d).agent v hv
        have hne : some ws≠some v := by
          intro he
          rw [Option.some.inj he,hagent] at hk
          simp at hk
        exact (hfor d).mp ((maySend_agent hagent).mp (hall v (mem_inRoom.mpr ⟨Or.inl hv,hne,ho⟩)))
      · intro hown v hv
        refine h.maySend_inRoom (fun u hu _ ho => ?_) hv
        refine (hfor d).mpr (hown hd trivial ?_)
        exact (any_eq_true _ _).mpr ⟨u,hu,ho⟩

theorem Kept.isolated_operatorSays (h : Kept s) (hi : Isolated s)
    (hk : s.kind ws=some (.operator,d)) (hm : m.operator≠none) : Isolated (s.operatorSays ws d m) ↔
      (d≠State.panel → s.targetRoom d m.conversationId=none → (s.getRoom d).agentWs.any s.isOpen=true →
        Own s.store.groups d m.conversationId) := by
  rw [← h.isolated_operatorReceivers hk hm]
  have hsent (t : State) (ht : Isolated t) (hka : t.agentOf=s.agentOf) (hg : t.store=s.store) :
      Isolated (t.sendAll none (s.operatorReceivers ws d m.conversationId) (.said m)) ↔
        ∀ v∈s.operatorReceivers ws d m.conversationId, MaySend s v (.said m) := by
    rw [isolated_sendAll]
    simp [ht,MaySend,hka,hg]
  unfold State.operatorSays
  split
  · rw [isolated_ask,isolated_sendTo]
    refine (and_iff_left fun _ => ?_).trans (hsent _ hi rfl rfl)
    exact maySend_operator hk
  · exact hsent _ hi rfl rfl

theorem Kept.isolated_operatorFrame (h : Kept s) (hi : Isolated s)
    (hk : s.kind ws=some (.operator,d)) (name : String) (frame : ClientFrame) (now : ℕ) :
    Isolated (s.operatorFrame ws d name frame now) ↔ ∀ type conversationId fromName payload,
      frame=.said type conversationId fromName payload → d≠State.panel →
        s.targetRoom d (conversationId.orElse d)=none → (s.getRoom d).agentWs.any s.isOpen=true →
          Own s.store.groups d (conversationId.orElse d) := by
  cases frame with
  | hello =>
    refine iff_of_true ?_ (by simp)
    exact (isolated_sendTo _ _).mpr ⟨hi,fun _ => maySend_operator hk⟩
  | said type conversationId fromName payload =>
    have hsays:=h.isolated_operatorSays hi hk (m := State.operatorSaid d name type conversationId payload now)
      (some_ne_none name)
    have hframe : Isolated (s.operatorFrame ws d name (.said type conversationId fromName payload) now) ↔
        Isolated (s.operatorSays ws d (State.operatorSaid d name type conversationId payload now)) := by
      simp only [State.operatorFrame]
      split <;> rfl
    rw [hframe, hsays]
    constructor
    · intro hown type' conversationId' fromName' payload' he
      cases he
      exact hown
    · intro hown
      exact hown type conversationId fromName payload rfl
  | getContacts | getGroups | getHistory | unknown => exact iff_of_true hi (by simp)
  | markRead conversationId =>
    refine iff_of_true ?_ (by simp)
    simp only [State.operatorFrame]
    split <;> exact hi
  | createGroup name memberIds =>
    refine iff_of_true ?_ (by simp)
    cases memberIds with
    | none => exact hi
    | some members =>
      simp only [State.operatorFrame]
      split <;> exact hi
  | presenceUpdate online status =>
    refine iff_of_true ?_ (by simp)
    refine (isolated_sendAll _ _ _).mpr ⟨hi,fun v hv => ⟨fun _ _ => trivial,fun e he => ?_⟩⟩
    cases he

theorem Pending.Kept.device_eq (hp : p.Kept s.kind) (hd : s.agentOf p.ws=some d) : p.device=d := by
  obtain ⟨role,hrole⟩:=hp.asker
  rw [State.agentOf_eq_some,hrole] at hd
  simp only [some.injEq,Prod.mk.injEq] at hd
  exact hd.2

theorem isolated_saveMessage (hi : Isolated s) {author : Option String} (ha : ∀ d, author=some d → m.from_=d)
    (now : ℕ) : Isolated (s.saveMessage author m now) ↔
      ∀ d c n, author=some d → State.savable m=some (c,n) → Own s.store.groups d (.str c) := by
  unfold State.saveMessage
  cases hm : State.savable m with
  | none => exact iff_of_true hi (by simp)
  | some cn =>
    obtain ⟨c,n⟩:=cn
    dsimp only
    rw [isolated_done,isolated_setStore,and_iff_right hi]
    constructor
    · intro hall d c' n' hd he
      cases he
      exact (hall d hd).2
    · intro hown d hd
      exact ⟨ha d hd,hown d c n hd rfl⟩

theorem isolated_markRead (hi : Isolated s) {readerId : String} {author : Option String}
    (ha : ∀ d, author=some d → readerId=d) (conversationId : Value) :
    Isolated (s.markRead author conversationId readerId) ↔
      ∀ d c, author=some d → conversationId=.str c → c≠"" → readerId≠"" → Own s.store.groups d (.str c) := by
  cases conversationId with
  | falsy | other => exact iff_of_true hi (by simp)
  | str c =>
    simp only [State.markRead]
    split
    case isTrue hne =>
      rw [isolated_done,isolated_setStore,and_iff_right hi]
      constructor
      · intro hall d c' hd he _ _
        cases he
        exact (hall d hd).2
      · intro hown d hd
        exact ⟨ha d hd,hown d c hd rfl hne.1 hne.2⟩
    case isFalse hne =>
      refine iff_of_true hi fun d c' _ he hc hr => absurd ⟨?_,hr⟩ hne
      cases he
      exact hc

theorem isolated_createGroup (hi : Isolated s) (hp : p.Kept s.kind) {g : ChatGroup} {name : String}
    {members : List String} (hr : p.request=.create name members g.createdBy) : Isolated (s.createGroup p g) := by
  rw [State.createGroup,isolated_ask,isolated_sendTo,isolated_done,isolated_setStore]
  refine ⟨⟨hi,fun d hd => ?_⟩,fun _ d hd => ?_⟩
  · have := hp.author d hd
    rw [hr] at this
    exact this
  · have hdevice:=hp.device_eq hd
    rw [← hdevice]
    refine hp.created _ _ _ hr ?_
    rw [hdevice]
    exact State.agentOf_eq_some.mp hd

theorem isolated_answer (hp : p.Kept s.kind) (hi : Isolated s) (ok : Bool) (tag : String) (now : ℕ) :
    Isolated (s.answer p ok tag now) ↔ AnswerOk s p ok := by
  have hauthor (d : String) (hd : p.author=some d) := hp.author d hd
  unfold State.answer
  cases hr : p.request with
  | history c =>
    have hother (hist : ∀ d c', s.isOpen p.ws=true → s.agentOf p.ws=some d → p.request=.history c' →
        if ok=true then Own s.store.groups d (.str c')
        else p.fallback=.memory ∨ p.fallback=.conversation →
          ∀ m∈(s.getRoom p.device).messages, SaidFor s.store.groups d m) : AnswerOk s p ok :=
      ⟨hist,by simp [hr],by simp [hr],by simp [hr],by simp [hr]⟩
    have hmemory (hok : ok≠true) (hfall : p.fallback=.memory ∨ p.fallback=.conversation) (conversationId : Value) :
        Isolated (s.sendTo p.ws (.memory conversationId (s.getRoom p.device).messages)) ↔ AnswerOk s p ok := by
      rw [isolated_sendTo,and_iff_right hi]
      constructor
      · intro hall
        refine hother fun d c' ho hd _ => ?_
        rw [if_neg hok]
        exact fun _ => hall ho d hd
      · intro hans ho d hd
        have := hans.history d c ho hd hr
        rw [if_neg hok] at this
        exact this hfall
    dsimp only
    split
    case isTrue hok =>
      rw [isolated_sendTo,and_iff_right hi]
      constructor
      · intro hall
        refine hother fun d c' ho hd he => ?_
        rw [if_pos hok]
        rw [hr] at he
        cases he
        exact hall ho d hd
      · intro hans ho d hd
        have := hans.history d c ho hd hr
        rwa [if_pos hok] at this
    case isFalse hok =>
      split
      case isTrue hf => exact hmemory hok (Or.inl hf) _
      case isFalse hf =>
        split
        case isTrue hf' => exact hmemory hok (Or.inr hf') _
        case isFalse hf' =>
          refine iff_of_true hi (hother fun d c' _ _ _ => ?_)
          rw [if_neg hok]
          intro hfall
          exact absurd hfall (not_or_intro hf hf')
  | contacts id =>
    have hown (l : List Contact) : Isolated (s.sendTo p.ws (.contacts p.device l)) :=
      (isolated_sendTo _ _).mpr ⟨hi,fun _ d hd => hp.device_eq hd⟩
    dsimp only
    generalize hl : (if ok=true then s.store.handleChatContacts id else [])=found
    split
    case isTrue hfound =>
      rw [isolated_sendTo,and_iff_right hi]
      constructor
      · intro hall
        refine ⟨by simp [hr],fun d id' ho hd he _ _ => ?_,by simp [hr],by simp [hr],by simp [hr]⟩
        rw [hr] at he
        cases he
        exact hall ho d hd
      · intro hans ho d hd
        by_cases hok : ok=true
        · rw [if_pos hok] at hl
          exact hans.contacts d id ho hd hr hok (hl ▸ hfound)
        · rw [if_neg hok] at hl
          exact absurd hl.symm hfound
    case isFalse hfound =>
      have hans : AnswerOk s p ok := by
        refine ⟨by simp [hr],fun d id' _ _ he hok hne => ?_,by simp [hr],by simp [hr],by simp [hr]⟩
        rw [hr] at he
        cases he
        rw [if_pos hok] at hl
        exact absurd (hl ▸ hne) hfound
      split
      · exact iff_of_true (hown _) hans
      · exact iff_of_true (hown _) hans
  | groups id =>
    dsimp only
    cases ok with
    | false => exact iff_of_true hi ⟨by simp [hr],by simp,by simp,by simp,by simp⟩
    | true =>
      rw [if_pos rfl,isolated_sendTo,and_iff_right hi]
      constructor
      · intro hall
        refine ⟨by simp [hr],by simp [hr],fun d id' ho hd he _ => ?_,by simp [hr],by simp [hr]⟩
        rw [hr] at he
        cases he
        exact hall ho d hd
      · intro hok ho d hd
        exact hok.groups d id ho hd hr rfl
  | save m =>
    rw [hr] at hauthor
    dsimp only
    cases ok with
    | false => exact iff_of_true hi ⟨by simp [hr],by simp,by simp,by simp,by simp⟩
    | true =>
      rw [if_pos rfl,isolated_saveMessage hi hauthor]
      constructor
      · intro hown
        refine ⟨by simp [hr],by simp [hr],by simp [hr],fun d m' c n hd he _ hm => ?_,by simp [hr]⟩
        rw [hr] at he
        cases he
        exact hown d c n hd hm
      · intro hok d c n hd hm
        exact hok.saved d m c n hd hr rfl hm
  | mark c r =>
    rw [hr] at hauthor
    dsimp only
    cases ok with
    | false => exact iff_of_true hi ⟨by simp [hr],by simp,by simp,by simp,by simp⟩
    | true =>
      rw [if_pos rfl,isolated_markRead hi hauthor]
      constructor
      · intro hown
        refine ⟨by simp [hr],by simp [hr],by simp [hr],by simp [hr],fun d c' r' hd he _ hc hne => ?_⟩
        rw [hr] at he
        cases he
        exact hown d c' hd rfl hc hne
      · intro hok d c' hd he hc hne
        subst he
        exact hok.marked d c' r hd hr rfl hc hne
  | create name members by_ =>
    refine iff_of_true ?_ ⟨by simp [hr],by simp [hr],by simp [hr],by simp [hr],by simp [hr]⟩
    dsimp only
    split
    · exact isolated_createGroup hi hp hr
    · exact hi

theorem isolated_agentConnects (hi : Isolated s) (ws : Ws) (d : String) : Isolated (s.handleAgentConnection ws d) := by
  simp only [State.handleAgentConnection,isolated_ask,isolated_announce,isolated_setRoom,isolated_setSocket,
    isolated_closeOld]
  exact hi

theorem isolated_operatorConnects (hi : Isolated s) (ws : Ws) (d name : String) :
    Isolated (s.handleOperatorConnection ws d name) := by
  have hstatus (t : State) (ht : Isolated t) (c : Bool) : Isolated (t.sendTo ws (.status none c)) :=
    (isolated_sendTo _ _).mpr ⟨ht,fun _ _ _ => trivial⟩
  unfold State.handleOperatorConnection
  dsimp only
  split
  · rw [isolated_ask,isolated_ask]
    refine hstatus _ ?_ _
    exact hi
  · rw [isolated_ask]
    refine hstatus _ ?_ _
    exact hi

theorem isolated_closes (hi : Isolated s) (ws : Ws) (socket : Socket) : Isolated (s.closes ws socket) := by
  unfold State.closes
  dsimp only
  split
  · split
    · exact (isolated_announce _ _ _).mpr hi
    · exact hi
  · exact hi

theorem Kept.isolated_frame (h : Kept s) (hi : Isolated s) {socket : Socket}
    (hs : s.sockets ws=some socket) (frame : ClientFrame) (now : ℕ) :
    Isolated (match socket.role with
      | .agent => s.agentFrame ws socket.device frame now
      | .operator => s.operatorFrame ws socket.device socket.name frame now) ↔
      ∀ type conversationId fromName payload, frame=.said type conversationId fromName payload →
        SaysOk s ws socket type conversationId := by
  have hk:=State.kind_of_socket hs
  cases hr : socket.role with
  | agent =>
    rw [hr] at hk
    rw [h.isolated_agentFrame hi hk]
    refine forall₂_congr fun type c => forall₃_congr fun n pl _ => ⟨fun hown => ⟨fun _ => hown,fun ho => ?_⟩,?_⟩
    · rw [hr] at ho
      cases ho
    · intro hown
      exact hown.agent hr
  | operator =>
    rw [hr] at hk
    rw [h.isolated_operatorFrame hi hk]
    refine forall₂_congr fun type c => forall₃_congr fun n pl _ => ⟨fun hown => ⟨fun ha => ?_,fun _ => hown⟩,?_⟩
    · rw [hr] at ha
      cases ha
    · intro hown
      exact hown.operator hr

theorem Kept.isolated_step (h : Kept s) (hi : Isolated s) (a : Event) :
    (∀ t, step s a=some t → Isolated t) ↔ StepOk s a := by
  cases a with
  | agentConnects ws device =>
    refine iff_of_true (fun t ht => ?_) trivial
    simp only [step,ite_none_right_eq_some,some.injEq] at ht
    rw [← ht.2]
    exact isolated_agentConnects hi ws device
  | operatorConnects ws device name =>
    refine iff_of_true (fun t ht => ?_) trivial
    simp only [step,ite_none_right_eq_some,some.injEq] at ht
    rw [← ht.2]
    exact isolated_operatorConnects hi ws device name
  | frame ws frame now =>
    constructor
    · intro hall
      have hsays (socket : Socket) (hs : s.sockets ws=some socket) (hc : socket.ready ≠ .closed) :=
        (h.isolated_frame hi hs frame now).mp (hall _ (step_frame.mpr ⟨socket,hs,hc,rfl⟩))
      cases frame with
      | said type conversationId fromName payload => exact fun socket hs hc => hsays socket hs hc _ _ _ _ rfl
      | _ => trivial
    · intro hok t ht
      obtain ⟨socket,hs,hc,rfl⟩:=step_frame.mp ht
      refine (h.isolated_frame hi hs frame now).mpr fun type conversationId fromName payload he => ?_
      subst he
      exact hok socket hs hc
  | answered i ok tag now =>
    have hmap (p : Pending) (hp : s.pending[i]?=some p) :
        step s (.answered i ok tag now)=some ((s.setPending (s.pending.eraseIdx i)).answer p ok tag now) := by
      simp [step,hp]
    have hanswer (p : Pending) (hp : s.pending[i]?=some p) :
        Isolated ((s.setPending (s.pending.eraseIdx i)).answer p ok tag now) ↔ AnswerOk s p ok := by
      refine (isolated_answer (s := s.setPending (s.pending.eraseIdx i)) ?_ hi ok tag now).trans ?_
      · exact h.pending p (mem_of_getElem? hp)
      · exact ⟨fun h => ⟨h.1,h.2,h.3,h.4,h.5⟩,fun h => ⟨h.1,h.2,h.3,h.4,h.5⟩⟩
    constructor
    · intro hall p hp
      exact (hanswer p hp).mp (hall _ (hmap p hp))
    · intro hok t ht
      obtain ⟨p,hp,rfl⟩:=map_eq_some_iff.mp ht
      exact (hanswer p hp).mpr (hok p hp)
  | closes ws =>
    refine iff_of_true (fun t ht => ?_) trivial
    simp only [step] at ht
    split at ht
    · obtain ⟨-,ht⟩:=ite_none_left_eq_some.mp ht
      rw [← Option.some.inj ht]
      exact isolated_closes hi ws _
    · cases ht
  | groupsChange | directoryChanges =>
    refine iff_of_true (fun t ht => ?_) trivial
    rw [← Option.some.inj ht]
    exact hi

theorem kept_start (store : Store) : Kept (State.start store) := by
  refine ⟨fun d => ⟨fun ws hws => ?_,fun ws hws => ?_⟩,fun ws hws => ?_,fun p hp => ?_⟩
  · cases hws
  · cases hws
  · cases hws
  · cases hp

theorem isolated_start (store : Store) : Isolated (State.start store) := fun _ hx => nomatch hx

theorem isolated_run_iff (store : Store) (es : List Event) :
    (∀ pre, pre <+: es → ∀ s, exec step (State.start store) pre=some s → Isolated s) ↔
      Along step StepOk (State.start store) es := by
  rw [along_reached_iff (isolated_start store)]
  refine along_iff_of_keep (fun s => Kept s ∧ Isolated s) ?_ ?_ ⟨kept_start store,isolated_start store⟩
  · intro s a t h hall ht
    exact ⟨kept_step h.1 ht,hall t ht⟩
  · intro s a h
    exact h.1.isolated_step h.2 a

end BetterDesk.Panel.Chat
