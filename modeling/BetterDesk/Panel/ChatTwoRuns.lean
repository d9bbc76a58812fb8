import BetterDesk.Lib.Pointwise
import BetterDesk.Panel.ChatIsolation

/-! # Two runs of the chat -/

namespace BetterDesk.Panel.Chat
open Exec List Option

def Said.InDirect (e : String) (m : Said) : Prop := m.conversationId=.str e ∧ (m.operator=none → m.from_=e)

def SaidAlike (e : String) (m m' : Said) : Prop :=
  m=m' ∨ m.InDirect e ∧ m'={m with fromName := m'.fromName,payload := m'.payload,timestamp := m'.timestamp} ∧
    (State.savable m').isSome=(State.savable m).isSome

def StoredAlike (e : String) (m m' : ChatMessage) : Prop :=
  m=m' ∨ m.conversationId=e ∧ m'={m with fromName := m'.fromName,text := m'.text,createdAt := m'.createdAt}

structure StoreAlike (e : String) (s s' : Store) : Prop where
  messages : List.Forall₂ (StoredAlike e) s.messages s'.messages
  lastId : s'.lastId=s.lastId
  groups : s'.groups=s.groups
  peers : s'.peers=s.peers
  operators : s'.operators=s.operators

inductive FrameAlike (e : String) : Frame → Frame → Prop where
  | refl (f : Frame) : FrameAlike e f f
  | said {m m' : Said} : SaidAlike e m m' → FrameAlike e (.said m) (.said m')
  | history {c : String} {v : Value} {l l' : List ChatMessage} :
      (c≠e → l=l') → FrameAlike e (.history c v l) (.history c v l')
  | memory {v : Value} {l l' : List Said} : List.Forall₂ (SaidAlike e) l l' → FrameAlike e (.memory v l) (.memory v l')

inductive RequestAlike (e : String) : Request → Request → Prop where
  | refl (r : Request) : RequestAlike e r r
  | save {m m' : Said} : SaidAlike e m m' → RequestAlike e (.save m) (.save m')

structure PendingAlike (e : String) (p p' : Pending) : Prop where
  request : RequestAlike e p.request p'.request
  rest : p'={p with request := p'.request}

structure RoomAlike (e : String) (r r' : Room) : Prop where
  agentWs : r'.agentWs=r.agentWs
  operatorWss : r'.operatorWss=r.operatorWss
  messages : List.Forall₂ (SaidAlike e) r.messages r'.messages

inductive ActAlike (e : String) : Act → Act → Prop where
  | refl (a : Act) : ActAlike e a a
  | sent {ws : Ws} {f f' : Frame} : FrameAlike e f f' → ActAlike e (.sent ws f) (.sent ws f')

structure EntryAlike (e : String) (x x' : Entry) : Prop where
  act : ActAlike e x.act x'.act
  rest : x'={x with act := x'.act}

structure Alike (e : String) (s s' : State) : Prop where
  rooms : List.Forall₂ (fun x x' => x'.1=x.1 ∧ RoomAlike e x.2 x'.2) s.rooms s'.rooms
  panel : s'.panelOperators=s.panelOperators
  sockets : s'.sockets=s.sockets
  pending : List.Forall₂ (PendingAlike e) s.pending s'.pending
  store : StoreAlike e s.store s'.store
  log : List.Forall₂ (EntryAlike e) s.log s'.log

variable {e : String}

instance : Std.Refl (SaidAlike e) := ⟨fun _ => Or.inl rfl⟩

instance : Std.Refl (StoredAlike e) := ⟨fun _ => Or.inl rfl⟩

theorem RoomAlike.refl (r : Room) : RoomAlike e r r := ⟨rfl,rfl,forall₂_refl _⟩

variable {d p' c p : String} {m' m : Said} {r' r : Room} {groups : List ChatGroup} {t' t : Store} {f' f : Frame}
  {type : Talk} {n' n : Value} {now' now : ℕ}

theorem RoomAlike.setAgent (h : RoomAlike e r r') (agentWs : Option Ws) :
    RoomAlike e {r with agentWs} {r' with agentWs} := ⟨rfl,h.operatorWss,h.messages⟩

theorem RoomAlike.setOperators (h : RoomAlike e r r') {l l' : List Ws} (hl : l'=l) :
    RoomAlike e {r with operatorWss := l} {r' with operatorWss := l'} := ⟨h.agentWs,hl,h.messages⟩

theorem PendingAlike.refl (p : Pending) : PendingAlike e p p := ⟨.refl _,rfl⟩

theorem EntryAlike.refl (x : Entry) : EntryAlike e x x := ⟨.refl _,rfl⟩

theorem SaidAlike.conversationId_eq (h : SaidAlike e m m') : m'.conversationId=m.conversationId := by
  obtain h | ⟨-,h,-⟩:=h
  · rw [h]
  · rw [h]

theorem SaidAlike.from_eq (h : SaidAlike e m m') : m'.from_=m.from_ := by
  obtain h | ⟨-,h,-⟩:=h
  · rw [h]
  · rw [h]

theorem SaidAlike.type_eq (h : SaidAlike e m m') : m'.type=m.type := by
  obtain h | ⟨-,h,-⟩:=h
  · rw [h]
  · rw [h]

theorem not_own (hde : d≠e) (he : ∀ tag, e≠"group:" ++ tag) : ¬ Own groups d (.str e) := by
  intro hown
  obtain hown | ⟨g,-,hg,-⟩:=hown
  · exact hde (Value.str.inj hown).symm
  · exact he g.tag (Value.str.inj hg)

theorem SaidAlike.eq (hde : d≠e) (he : ∀ tag, e≠"group:" ++ tag)
    (h : SaidAlike e m m') (hm : SaidFor groups d m) : m=m' := by
  obtain h | ⟨hin,-⟩:=h
  · exact h
  · obtain ⟨hop,hfrom⟩ | hown:=hm
    · exact absurd ((hfrom.symm.trans (hin.2 hop))) hde
    · rw [hin.1] at hown
      exact absurd hown (not_own hde he)

theorem FrameAlike.eq (hde : d≠e) (he : ∀ tag, e≠"group:" ++ tag)
    (h : FrameAlike e f f') (hf : FrameFor groups d f) : f=f' := by
  cases h with
  | refl => rfl
  | said h => rw [h.eq hde he hf]
  | history h =>
    rw [h]
    intro hc
    subst hc
    exact not_own hde he hf
  | memory h =>
    have hall:=(forall₂_and_left _ _).mpr ⟨hf,h⟩
    have hl:=hall.imp fun m m' hm => hm.2.eq hde he hm.1
    rw [forall₂_eq_eq_eq] at hl
    rw [hl]

variable {s s' : State}

theorem Alike.room (h : Alike e s s') (d : String) : Option.Rel (RoomAlike e) (s.room d) (s'.room d) := by
  have hfind:=Pointwise.find? h.rooms (p := fun x => x.1=d) (q := fun x => x.1=d) (fun x x' hx => by rw [hx.1])
  unfold State.room
  obtain ⟨hs,hs'⟩ | ⟨x,x',hs,hs',hx⟩:=Pointwise.option_cases hfind
  · rw [hs,hs']
    exact .none
  · rw [hs,hs']
    exact .some hx.2

theorem Alike.getRoom (h : Alike e s s') (d : String) : RoomAlike e (s.getRoom d) (s'.getRoom d) := by
  unfold State.getRoom
  obtain ⟨hs,hs'⟩ | ⟨r,r',hs,hs',hr⟩:=Pointwise.option_cases (h.room d)
  · rw [hs,hs']
    exact .refl _
  · rw [hs,hs']
    exact hr

theorem Alike.isOpen (h : Alike e s s') : s'.isOpen=s.isOpen := by
  funext ws
  rw [State.isOpen,State.isOpen,h.sockets]

theorem Alike.agentOf (h : Alike e s s') : s'.agentOf=s.agentOf := by
  funext ws
  rw [State.agentOf,State.agentOf,h.sockets]

theorem Alike.inRoom (h : Alike e s s') (hr : RoomAlike e r r') (ex : Option Ws) : s'.inRoom r' ex=s.inRoom r ex := by
  rw [State.inRoom,State.inRoom,hr.agentWs,hr.operatorWss,h.isOpen]

theorem Alike.inPanel (h : Alike e s s') (ex : Option Ws) (hr : RoomAlike e r r') :
    s'.inPanel ex (some r')=s.inPanel ex (some r) := by
  simp [State.inPanel,hr.operatorWss,h.isOpen,h.panel]

theorem Alike.inPanel_none (h : Alike e s s') (ex : Option Ws) : s'.inPanel ex none=s.inPanel ex none := by
  simp only [State.inPanel,h.isOpen,h.panel]

theorem Alike.agentReceivers (h : Alike e s s') (ws : Ws) (d : String) :
    s'.agentReceivers ws d=s.agentReceivers ws d := by
  rw [State.agentReceivers,State.agentReceivers,h.inRoom (h.getRoom d),h.inPanel _ (h.getRoom d)]

theorem Alike.roomOf (h : Alike e s s') (c : Value) : Option.Rel (RoomAlike e) (s.roomOf c) (s'.roomOf c) := by
  cases c with
  | falsy => exact .none
  | other => exact .none
  | str d => exact h.room d

theorem Alike.keptIn (h : Alike e s s') (d : String) (c : Value) : s'.keptIn d c=s.keptIn d c := by
  unfold State.keptIn
  obtain ⟨hs,hs'⟩ | ⟨r,r',hs,hs',-⟩:=Pointwise.option_cases (h.roomOf c)
  · rw [hs,hs']
  · rw [hs,hs']
    cases c <;> rfl

theorem Alike.operatorReceivers (h : Alike e s s') (ws : Ws) (d : String) (c : Value) :
    s'.operatorReceivers ws d c=s.operatorReceivers ws d c := by
  have hown : (if d=State.panel then s'.inPanel (some ws) none else s'.inRoom (s'.getRoom d) (some ws)) =
      if d=State.panel then s.inPanel (some ws) none else s.inRoom (s.getRoom d) (some ws) := by
    rw [h.inPanel_none,h.inRoom (h.getRoom d)]
  unfold State.operatorReceivers State.targetRoom
  by_cases hc : c=.str d
  · simpa only [hc,if_true] using hown
  · simp only [hc,if_false]
    obtain ⟨hs,hs'⟩ | ⟨r,r',hs,hs',hr⟩:=Pointwise.option_cases (h.roomOf c)
    · rw [hs,hs']
      exact hown
    · rw [hs,hs']
      exact h.inRoom hr _

theorem Alike.fallbackContacts (h : Alike e s s') (d : String) (now : ℕ) :
    s'.fallbackContacts d now=s.fallbackContacts d now := by
  have hknown:=Pointwise.filter h.rooms (p := fun x => x.1≠d&&x.2.agentWs.any s.isOpen)
    (q := fun x => x.1≠d&&x.2.agentWs.any s'.isOpen) (fun x x' hx => by rw [hx.1,hx.2.agentWs,h.isOpen])
  unfold State.fallbackContacts
  rw [← Pointwise.map_eq hknown fun x x' hx => by rw [hx.1]]

theorem StoredAlike.unread {m m' : ChatMessage} (h : StoredAlike e m m') (d : String) :
    Store.countsAsUnread d m=Store.countsAsUnread d m' := by
  obtain h | ⟨-,h⟩:=h
  · rw [h]
  · rw [h]
    rfl

theorem StoreAlike.handleChatContacts (h : StoreAlike e t t') (d : String) :
    t'.handleChatContacts d=t.handleChatContacts d := by
  have hunread : t.getUnreadCount d=t'.getUnreadCount d := Pointwise.countP_eq h.messages fun _ _ hm => hm.unread d
  rw [Store.handleChatContacts,Store.handleChatContacts,h.peers,h.operators,hunread]

theorem StoredAlike.conversationId_eq {m m' : ChatMessage} (h : StoredAlike e m m') :
    m'.conversationId=m.conversationId := by
  obtain h | ⟨-,h⟩:=h
  · rw [h]
  · rw [h]

theorem StoreAlike.getChatHistory (h : StoreAlike e t t') (hc : c≠e) : t.getChatHistory c=t'.getChatHistory c := by
  have hsame:=Pointwise.filter h.messages (p := fun m => m.conversationId=c) (q := fun m => m.conversationId=c)
    (fun m m' hm => by rw [hm.conversationId_eq])
  have hall : ∀ m∈t.messages.filter (fun m => m.conversationId=c), m.conversationId=c := by simp
  have heq:=((forall₂_and_left _ _).mpr ⟨hall,hsame⟩).imp fun m m' hm => hm.2.resolve_right fun hin =>
    hc (hm.1.symm.trans hin.1)
  rw [forall₂_eq_eq_eq] at heq
  rw [Store.getChatHistory,Store.getChatHistory,heq]

theorem Alike.record (h : Alike e s s') {l l' : List Entry} (hl : List.Forall₂ (EntryAlike e) l l') :
    Alike e (s.record l) (s'.record l') := ⟨h.1,h.2,h.3,h.4,h.5,Pointwise.append h.log hl⟩

theorem Alike.ask (h : Alike e s s') {p p' : Pending} (hp : PendingAlike e p p') : Alike e (s.ask p) (s'.ask p') :=
  ⟨h.1,h.2,h.3,Pointwise.append h.pending (.cons hp .nil),h.5,h.6⟩

theorem Alike.setSocket (h : Alike e s s') (ws : Ws) (socket : Socket) :
    Alike e (s.setSocket ws socket) (s'.setSocket ws socket) := by
  refine ⟨h.1,h.2,?_,h.4,h.5,h.6⟩
  rw [State.setSocket,State.setSocket,h.sockets]

theorem Alike.setPanel (h : Alike e s s') {l l' : List Ws} (hl : l'=l) : Alike e (s.setPanel l) (s'.setPanel l') :=
  ⟨h.1,hl,h.3,h.4,h.5,h.6⟩

theorem Alike.setPending (h : Alike e s s') {l l' : List Pending} (hl : List.Forall₂ (PendingAlike e) l l') :
    Alike e (s.setPending l) (s'.setPending l') := ⟨h.1,h.2,h.3,hl,h.5,h.6⟩

theorem Alike.setStore (h : Alike e s s') (ht : StoreAlike e t t') :
    Alike e (s.setStore t) (s'.setStore t') := ⟨h.1,h.2,h.3,h.4,ht,h.6⟩

theorem putRoom_alike {l l' : List (String × Room)}
    (h : List.Forall₂ (fun x x' => x'.1=x.1 ∧ RoomAlike e x.2 x'.2) l l') (hr : RoomAlike e r r')
    (d : String) : List.Forall₂ (fun x x' => x'.1=x.1 ∧ RoomAlike e x.2 x'.2) (State.putRoom l d r)
      (State.putRoom l' d r') := by
  induction h with
  | nil => exact .cons ⟨rfl,hr⟩ .nil
  | @cons x x' l l' hx hl ih =>
    rw [State.putRoom,State.putRoom,hx.1]
    split
    · exact .cons ⟨rfl,hr⟩ hl
    · exact .cons ⟨rfl,hx.2⟩ ih

theorem Alike.setRoom (h : Alike e s s') (d : String) (hr : RoomAlike e r r') :
    Alike e (s.setRoom d r) (s'.setRoom d r') := ⟨putRoom_alike h.rooms hr d,h.2,h.3,h.4,h.5,h.6⟩

theorem Alike.entry (h : Alike e s s') (author : Option String) (ws : Ws) (hf : FrameAlike e f f') :
    EntryAlike e (s.entry author ws f) (s'.entry author ws f') := by
  refine ⟨.sent hf,?_⟩
  rw [State.entry,State.entry,h.store.groups,h.agentOf]

theorem Alike.sendTo (h : Alike e s s') (ws : Ws) (hf : FrameAlike e f f') :
    Alike e (s.sendTo ws f) (s'.sendTo ws f') := by
  rw [State.sendTo,State.sendTo,h.isOpen]
  split
  · exact h.record (.cons (h.entry none ws hf) .nil)
  · exact h

theorem Alike.sendAll (h : Alike e s s') (author : Option String) (l : List Ws) (hf : FrameAlike e f f') :
    Alike e (s.sendAll author l f) (s'.sendAll author l f') := by
  refine h.record (Pointwise.map (R := Eq) ?_ fun ws ws' hws => ?_)
  · rw [forall₂_eq_eq_eq]
  · subst hws
    exact h.entry author ws hf

theorem Alike.done (h : Alike e s s') (author : Option String) (act : Act) :
    Alike e (s.done author act) (s'.done author act) := by
  refine h.record (.cons ?_ .nil)
  rw [h.store.groups]
  exact .refl _

theorem RoomAlike.append (h : RoomAlike e r r') (hm : SaidAlike e m m') : RoomAlike e (r.append m) (r'.append m') := by
  have happend:=Pointwise.append h.messages (.cons hm .nil)
  constructor
  · rw [Room.agentWs_append,Room.agentWs_append,h.agentWs]
  · rw [Room.operatorWss_append,Room.operatorWss_append,h.operatorWss]
  · simp only [Room.append,happend.length_eq]
    exact forall₂_drop _ happend

theorem Alike.announce (h : Alike e s s') (d : String) (ex : Option Ws) (c : Bool) :
    Alike e (s.announce d ex c) (s'.announce d ex c) := by
  have hr:=h.getRoom d
  simp only [State.announce,h.inRoom hr,h.inPanel none hr]
  refine (((h.sendAll _ _ ?_).sendAll _ _ ?_).sendAll _ _ ?_).sendAll _ _ ?_
  all_goals exact .refl _

theorem Alike.closeOld (h : Alike e s s') (old : Option Ws) : Alike e (s.closeOld old) (s'.closeOld old) := by
  cases old with
  | none => exact h
  | some ws =>
    simp only [State.closeOld,h.sockets]
    cases s.sockets ws with
    | none => exact h
    | some socket =>
      dsimp only
      split
      · exact h
      · exact h.setSocket ws _

theorem Alike.agentConnects (h : Alike e s s') (ws : Ws) (d : String) :
    Alike e (s.handleAgentConnection ws d) (s'.handleAgentConnection ws d) := by
  have hr:=h.getRoom d
  have hin:=((h.closeOld (s.getRoom d).agentWs).setSocket ws ⟨.agent,d,"",.open⟩).setRoom d
    (hr.setAgent (some ws))
  simp only [State.handleAgentConnection,hr.agentWs]
  exact (((hin.announce _ _ _).ask (.refl _)).ask (.refl _)).ask (.refl _)

theorem Alike.operatorConnects (h : Alike e s s') (ws : Ws) (d name : String) :
    Alike e (s.handleOperatorConnection ws d name) (s'.handleOperatorConnection ws d name) := by
  have hr:=h.getRoom d
  have hin : Alike e
      ((s.setSocket ws ⟨.operator,d,name,.open⟩).setRoom d
        {s.getRoom d with operatorWss := (s.getRoom d).operatorWss++[ws]})
      ((s'.setSocket ws ⟨.operator,d,name,.open⟩).setRoom d
        {s'.getRoom d with operatorWss := (s'.getRoom d).operatorWss++[ws]}) := by
    refine (h.setSocket ws _).setRoom d (hr.setOperators ?_)
    rw [hr.operatorWss]
  have hstatus (t t' : State) (ht : Alike e t t') :
      Alike e (t.sendTo ws (.status none ((s.getRoom d).agentWs.any t.isOpen)))
        (t'.sendTo ws (.status none ((s'.getRoom d).agentWs.any t'.isOpen))) := by
    rw [hr.agentWs,ht.isOpen]
    exact ht.sendTo ws (.refl _)
  unfold State.handleOperatorConnection
  dsimp only
  split
  · exact ((hstatus _ _ (hin.setPanel (congrArg (·++[ws]) hin.panel))).ask (.refl _)).ask (.refl _)
  · exact (hstatus _ _ hin).ask (.refl _)

theorem Alike.agentSays (h : Alike e s s') (ws : Ws) (hm : SaidAlike e m m') :
    Alike e (s.agentSays ws m) (s'.agentSays ws m') := by
  unfold State.agentSays
  simp only [hm.type_eq,hm.from_eq,h.agentReceivers]
  split
  · exact ((h.setRoom _ ((h.getRoom _).append hm)).sendAll _ _ (.said hm)).ask ⟨.save hm,rfl⟩
  · exact h.sendAll _ _ (.said hm)

theorem Alike.operatorSays (h : Alike e s s') (ws : Ws) (d : String) (hm : SaidAlike e m m') :
    Alike e (s.operatorSays ws d m) (s'.operatorSays ws d m') := by
  unfold State.operatorSays
  simp only [hm.type_eq,hm.conversationId_eq,h.keptIn,h.operatorReceivers]
  split
  · exact (((h.setRoom _ ((h.getRoom _).append hm)).sendAll _ _ (.said hm)).sendTo ws (.said hm)).ask ⟨.save hm,rfl⟩
  · exact h.sendAll _ _ (.said hm)

theorem Alike.agentFrame_said (h : Alike e s s') (ws : Ws) {c : Value}
    (hm : SaidAlike e (State.agentSaid d type c n p now) (State.agentSaid d type c n' p' now')) :
    Alike e (s.agentFrame ws d (.said type c n p) now) (s'.agentFrame ws d (.said type c n' p') now') := by
  simp only [State.agentFrame]
  split
  · exact (h.agentSays ws hm).ask (.refl _)
  · exact h.agentSays ws hm

theorem Alike.agentFrame (h : Alike e s s') (ws : Ws) (d : String) (frame : ClientFrame) (now : ℕ) :
    Alike e (s.agentFrame ws d frame now) (s'.agentFrame ws d frame now) := by
  cases frame with
  | hello => exact h.sendTo ws (.refl _)
  | said type c n p => exact h.agentFrame_said ws (Or.inl rfl)
  | getContacts | getHistory => exact h.ask (.refl _)
  | getGroups | unknown => exact h
  | markRead c =>
    simp only [State.agentFrame]
    split
    · exact h.ask (.refl _)
    · exact h
  | createGroup name memberIds =>
    cases memberIds with
    | none => exact h
    | some members =>
      simp only [State.agentFrame]
      split
      · exact h.ask (.refl _)
      · exact h
  | presenceUpdate online status =>
    simp only [State.agentFrame,h.agentReceivers]
    exact h.sendAll _ _ (.refl _)

theorem Alike.operatorFrame_said (h : Alike e s s') (ws : Ws) {name : String} {c : Value}
        (hm : SaidAlike e (State.operatorSaid d name type c p now) (State.operatorSaid d name type c p' now')) :
    Alike e (s.operatorFrame ws d name (.said type c n p) now) (s'.operatorFrame ws d name (.said type c n' p') now') := by
  simp only [State.operatorFrame]
  split
  · exact (h.operatorSays ws d hm).ask (.refl _)
  · exact h.operatorSays ws d hm

theorem Alike.operatorFrame (h : Alike e s s') (ws : Ws) (d name : String) (frame : ClientFrame) (now : ℕ) :
    Alike e (s.operatorFrame ws d name frame now) (s'.operatorFrame ws d name frame now) := by
  cases frame with
  | hello => exact h.sendTo ws (.refl _)
  | said type c n p => exact h.operatorFrame_said ws (Or.inl rfl)
  | getContacts | getGroups | getHistory => exact h.ask (.refl _)
  | markRead c =>
    simp only [State.operatorFrame]
    split
    · exact h.ask (.refl _)
    · exact h
  | createGroup name memberIds =>
    cases memberIds with
    | none => exact h
    | some members =>
      simp only [State.operatorFrame]
      split
      · exact h.ask (.refl _)
      · exact h
  | presenceUpdate online status =>
    simp only [State.operatorFrame,h.inPanel_none,h.inRoom (h.getRoom d)]
    exact h.sendAll _ _ (.refl _)
  | unknown => exact h

theorem StoreAlike.refl (t : Store) : StoreAlike e t t := ⟨forall₂_refl _,rfl,rfl,rfl,rfl⟩

theorem StoreAlike.saveChatMessage (h : StoreAlike e t t') {n n' text text' : String}
    (hc : c=e ∨ n=n' ∧ text=text') (fromId toId : String) (now : ℕ) :
    StoreAlike e (t.saveChatMessage c fromId n toId text now) (t'.saveChatMessage c fromId n' toId text' now) := by
  refine ⟨Pointwise.append h.messages (.cons ?_ .nil),?_,h.groups,h.peers,h.operators⟩
  · obtain hc | ⟨hn,ht⟩:=hc
    · refine Or.inr ⟨hc,?_⟩
      rw [h.lastId]
    · refine Or.inl ?_
      rw [h.lastId,hn,ht]
  · exact congrArg (·+1) h.lastId

theorem StoreAlike.markChatRead (h : StoreAlike e t t') (c r : String) :
    StoreAlike e (t.markChatRead c r) (t'.markChatRead c r) := by
  refine ⟨Pointwise.map h.messages fun m m' hm => ?_,h.lastId,h.groups,h.peers,h.operators⟩
  obtain hm | ⟨hc,hm⟩:=hm
  · exact Or.inl (congrArg _ hm)
  · refine Or.inr ?_
    rw [hm]
    unfold Store.markMessage
    dsimp only
    split
    · exact ⟨hc,rfl⟩
    · exact ⟨hc,rfl⟩

theorem StoreAlike.createChatGroup (h : StoreAlike e t t') (g : ChatGroup) :
    StoreAlike e (t.createChatGroup g) (t'.createChatGroup g) :=
  ⟨h.messages,h.lastId,congrArg (·++[g]) h.groups,h.peers,h.operators⟩

theorem conversationId_of_savable {n : String} (h : State.savable m=some (c,n)) : m.conversationId=.str c := by
  unfold State.savable at h
  split at h
  case h_1 c' n' hc _ =>
    simp only [ite_none_right_eq_some,some.injEq,Prod.mk.injEq] at h
    rw [hc,h.2.1]
  · cases h

theorem Alike.saveMessage (h : Alike e s s') (author : Option String) (hm : SaidAlike e m m') (now : ℕ) :
    Alike e (s.saveMessage author m now) (s'.saveMessage author m' now) := by
  unfold State.saveMessage
  obtain hm | ⟨hin,hm,hsome⟩:=hm
  · subst hm
    cases State.savable m with
    | none => exact h
    | some cn => exact (h.setStore (h.store.saveChatMessage (Or.inr ⟨rfl,rfl⟩) _ _ _)).done _ _
  · cases hs : State.savable m with
    | none =>
      rw [hs,isSome_none,isSome_eq_false_iff,isNone_iff_eq_none] at hsome
      rw [hsome]
      exact h
    | some cn =>
      rw [hs,isSome_some,isSome_iff_exists] at hsome
      obtain ⟨cn',hs'⟩:=hsome
      have hc:=conversationId_of_savable hs
      have hc':=conversationId_of_savable hs'
      rw [hin.1] at hc
      rw [hm,hin.1] at hc'
      have he:=Value.str.inj hc
      have he':=Value.str.inj hc'
      rw [hs']
      dsimp only
      rw [← he,← he',hm]
      exact (h.setStore (h.store.saveChatMessage (Or.inl rfl) _ _ _)).done _ _

theorem Alike.answer (h : Alike e s s') {p p' : Pending} (hp : PendingAlike e p p') (ok : Bool) (tag : String) (now : ℕ) :
    Alike e (s.answer p ok tag now) (s'.answer p' ok tag now) := by
  obtain ⟨ws,device,request,shown,fallback,author⟩:=p
  obtain ⟨hr,hp⟩:=hp
  rw [hp]
  generalize p'.request=request' at hr
  unfold State.answer
  cases hr with
  | save hm =>
    dsimp only
    split
    · exact h.saveMessage _ hm _
    · exact h
  | refl =>
    cases request with
    | history c =>
      have hhistory : FrameAlike e (.history c shown (s.store.getChatHistory c)) (.history c shown (s'.store.getChatHistory c)) :=
        .history h.store.getChatHistory
      have hmemory (v : Value) : FrameAlike e (.memory v (s.getRoom device).messages) (.memory v (s'.getRoom device).messages) :=
        .memory (h.getRoom device).messages
      dsimp only
      split
      · exact h.sendTo ws hhistory
      · split
        · exact h.sendTo ws (hmemory _)
        · split
          · exact h.sendTo ws (hmemory _)
          · exact h
    | contacts id =>
      dsimp only
      rw [h.store.handleChatContacts,h.fallbackContacts]
      generalize (if ok=true then s.store.handleChatContacts id else [])=found
      split
      · exact h.sendTo ws (.refl _)
      · split
        · exact h.sendTo ws (.refl _)
        · exact h.sendTo ws (.refl _)
    | groups id =>
      dsimp only
      rw [Store.listChatGroups,Store.listChatGroups,h.store.groups]
      split
      · exact h.sendTo ws (.refl _)
      · exact h
    | save m =>
      dsimp only
      split
      · exact h.saveMessage _ (Or.inl rfl) _
      · exact h
    | mark c r =>
      dsimp only [State.markRead]
      split
      · cases c with
        | falsy => exact h
        | other => exact h
        | str c =>
          dsimp only
          split
          · exact (h.setStore (h.store.markChatRead c r)).done _ _
          · exact h
      · exact h
    | create name members by_ =>
      dsimp only [State.createGroup]
      split
      · exact (((h.setStore (h.store.createChatGroup _)).done _ _).sendTo ws (.refl _)).ask (.refl _)
      · exact h

theorem Alike.closes (h : Alike e s s') (ws : Ws) (socket : Socket) : Alike e (s.closes ws socket) (s'.closes ws socket) := by
  have hclosed:=h.setSocket ws {socket with ready := .closed}
  have hr:=hclosed.getRoom socket.device
  unfold State.closes
  dsimp only
  split
  · rw [hr.agentWs]
    split
    · exact (hclosed.setRoom socket.device (hr.setAgent none)).announce _ _ _
    · exact hclosed
  · refine (hclosed.setRoom socket.device (hr.setOperators ?_)).setPanel ?_
    · rw [hr.operatorWss]
    · rw [hclosed.panel]

def Socket.said (socket : Socket) (type : Talk) (conversationId fromName : Value) (payload : String) (now : ℕ) : Said :=
  match socket.role with
  | .agent => State.agentSaid socket.device type conversationId fromName payload now
  | .operator => State.operatorSaid socket.device socket.name type conversationId payload now

inductive EventAlike (e : String) (s : State) : Event → Event → Prop where
  | refl (a : Event) : EventAlike e s a a
  | said {ws : Ws} {type : Talk} {c n n' : Value} {p p' : String} {now now' : ℕ} :
      (∀ socket, s.sockets ws=some socket → SaidAlike e (socket.said type c n p now) (socket.said type c n' p' now')) →
        EventAlike e s (.frame ws (.said type c n p) now) (.frame ws (.said type c n' p') now')

def RunsAlike (e : String) : State → List Event → List Event → Prop
  | _, [], [] => True
  | s, a::es, a'::es' => EventAlike e s a a' ∧ ∀ t, step s a=some t → RunsAlike e t es es'
  | _, _, _ => False

theorem Alike.step_said (h : Alike e s s') {ws : Ws} {c : Value}
    (hm : ∀ socket, s.sockets ws=some socket → SaidAlike e (socket.said type c n p now) (socket.said type c n' p' now'))
    {t : State} (ht : step s (.frame ws (.said type c n p) now)=some t) :
    ∃ t', step s' (.frame ws (.said type c n' p') now')=some t' ∧ Alike e t t' := by
  obtain ⟨socket,hs,hc,rfl⟩:=step_frame.mp ht
  refine ⟨_,step_frame.mpr ⟨socket,?_,hc,rfl⟩,?_⟩
  · rw [h.sockets,hs]
  · have hsaid:=hm socket hs
    unfold Socket.said at hsaid
    cases hr : socket.role with
    | agent =>
      rw [hr] at hsaid
      exact h.agentFrame_said ws hsaid
    | operator =>
      rw [hr] at hsaid
      exact h.operatorFrame_said ws hsaid

theorem Alike.step_same (h : Alike e s s') {a : Event} {t : State} (ht : step s a=some t) :
    ∃ t', step s' a=some t' ∧ Alike e t t' := by
  cases a with
  | agentConnects ws device =>
    simp only [step,ite_none_right_eq_some,some.injEq] at ht
    rw [← ht.2]
    refine ⟨_,?_,h.agentConnects ws device⟩
    rw [step,h.sockets,if_pos ht.1]
  | operatorConnects ws device name =>
    simp only [step,ite_none_right_eq_some,some.injEq] at ht
    rw [← ht.2]
    refine ⟨_,?_,h.operatorConnects ws device name⟩
    rw [step,h.sockets,if_pos ht.1]
  | frame ws frame now =>
    obtain ⟨socket,hs,hc,rfl⟩:=step_frame.mp ht
    refine ⟨_,step_frame.mpr ⟨socket,?_,hc,rfl⟩,?_⟩
    · rw [h.sockets,hs]
    · cases socket.role with
      | agent => exact h.agentFrame ws socket.device frame now
      | operator => exact h.operatorFrame ws socket.device socket.name frame now
  | answered i ok tag now =>
    obtain ⟨p,hp,rfl⟩:=map_eq_some_iff.mp ht
    obtain ⟨hn,-⟩ | ⟨q,q',hq,hq',halike⟩:=Pointwise.option_cases (Pointwise.getElem? h.pending i)
    · rw [hp] at hn
      cases hn
    · rw [hp] at hq
      cases hq
      refine ⟨_,?_,(h.setPending (Pointwise.eraseIdx h.pending i)).answer halike ok tag now⟩
      rw [step,hq']
      rfl
  | closes ws =>
    simp only [step] at ht
    split at ht
    case h_1 socket hs =>
      obtain ⟨hc,ht⟩:=ite_none_left_eq_some.mp ht
      rw [← Option.some.inj ht]
      refine ⟨_,?_,h.closes ws socket⟩
      simp [step,h.sockets,hs,hc]
    · cases ht
  | groupsChange groups =>
    rw [← Option.some.inj ht]
    exact ⟨_,rfl,h.setStore ⟨h.store.messages,h.store.lastId,rfl,h.store.peers,h.store.operators⟩⟩
  | directoryChanges peers operators =>
    rw [← Option.some.inj ht]
    exact ⟨_,rfl,h.setStore ⟨h.store.messages,h.store.lastId,h.store.groups,rfl,rfl⟩⟩

theorem Alike.run {es es' : List Event} (h : Alike e s s') (hes : RunsAlike e s es es') {t : State}
    (ht : exec step s es=some t) : ∃ t', exec step s' es'=some t' ∧ Alike e t t' := by
  induction es generalizing s s' es' with
  | nil =>
    cases es' with
    | nil =>
      cases ht
      exact ⟨s',rfl,h⟩
    | cons a' es' => exact absurd hes id
  | cons a es ih =>
    cases es' with
    | nil => exact absurd hes id
    | cons a' es' =>
      obtain ⟨u,hu,ht⟩:=exec_cons_some ht
      have hnext : ∃ u', step s' a'=some u' ∧ Alike e u u' := by
        cases hes.1 with
        | refl => exact h.step_same hu
        | said hm => exact h.step_said hm hu
      obtain ⟨u',hu',halike⟩:=hnext
      obtain ⟨t',ht',hfinal⟩:=ih halike (hes.2 u hu) ht
      refine ⟨t',?_,hfinal⟩
      rw [exec_cons,hu']
      exact ht'

def Entry.seenBy (d : String) (x : Entry) : Option Frame :=
  if x.receiver=some d then
    match x.act with
    | .sent _ frame => some frame
    | _ => none
  else none

def State.view (s : State) (d : String) : List Frame := s.log.filterMap (Entry.seenBy d)

theorem EntryAlike.seenBy_eq {x x' : Entry} (h : EntryAlike e x x') (hx : x.Isolated) (hde : d≠e)
    (he : ∀ tag, e≠"group:" ++ tag) : x.seenBy d=x'.seenBy d := by
  rw [h.rest]
  have hfor:=hx.receiver d
  have hact:=h.act
  generalize x'.act=act' at hact
  obtain ⟨groups,receiver,author,act⟩:=x
  unfold Entry.seenBy
  dsimp only at hfor hact ⊢
  split
  case isTrue hd =>
    cases hact with
    | refl => rfl
    | sent hf => rw [hf.eq hde he (hfor hd)]
  case isFalse => rfl

theorem Alike.view_eq (h : Alike e s s') (hi : Isolated s) (hde : d≠e) (he : ∀ tag, e≠"group:" ++ tag) :
    s'.view d=s.view d := by
  have hall:=(forall₂_and_left _ _).mpr ⟨hi,h.log⟩
  exact (Pointwise.filterMap_eq hall fun x x' hx => hx.2.seenBy_eq hx.1 hde he).symm

theorem alike_start {store store' : Store} (h : StoreAlike e store store') :
    Alike e (State.start store) (State.start store') := ⟨.nil,rfl,rfl,.nil,h,.nil⟩

theorem view_eq_of_runsAlike {store store' : Store} (hstore : StoreAlike e store store') {es es' : List Event}
    (hes : RunsAlike e (State.start store) es es') (hok : Along step StepOk (State.start store) es) (hde : d≠e)
    (he : ∀ tag, e≠"group:" ++ tag) {t : State} (ht : exec step (State.start store) es=some t) :
    ∃ t', exec step (State.start store') es'=some t' ∧ t'.view d=t.view d := by
  obtain ⟨t',ht',halike⟩:=(alike_start hstore).run hes ht
  have hi:=(isolated_run_iff store es).mpr hok es (prefix_refl es) t ht
  exact ⟨t',ht',halike.view_eq hi hde he⟩

/-- In a run nothing goes to an agent or comes from one that may not, exactly when each of its steps
allows it, and then nobody sees what is said in the conversation of another device. -/
theorem agents_see_their_own (store : Store) (es : List Event) :
    ((∀ pre, pre <+: es → ∀ s, exec step (State.start store) pre=some s → Isolated s) ↔
      Along step StepOk (State.start store) es) ∧ (Along step StepOk (State.start store) es →
      ∀ (d e : String) (store' : Store) (es' : List Event), d≠e → (∀ tag, e≠"group:" ++ tag) →
        StoreAlike e store store' → RunsAlike e (State.start store) es es' →
          ∀ t, exec step (State.start store) es=some t →
            ∃ t', exec step (State.start store') es'=some t' ∧ t'.view d=t.view d) := by
  refine ⟨isolated_run_iff store es,fun hok d e store' es' hde he hstore hes t ht => ?_⟩
  exact view_eq_of_runsAlike hstore hes hok hde he ht

/-- Two agents, what that of `B` says in its conversation, and that of `A` says hello. -/
def greeting (text : String) : List Event :=
  [.agentConnects 1 "B",.agentConnects 2 "A",.frame 1 (.said .message (.str "B") .falsy text) 5,
    .frame 2 .hello 6]

def noStore : Store := ⟨[],0,[],[],[]⟩

/-- The agent of `A` is sent the same whatever that of `B` says to its operators. -/
theorem greeting_unseen : ∃ t t', exec step (State.start noStore) (greeting "hello")=some t ∧
    exec step (State.start noStore) (greeting "bye")=some t' ∧ t.view "A"=[.welcome "A" 6] ∧ t'.view "A" = t.view "A" := by
  have hsocket (t u : State) (ht : step (State.start noStore) (.agentConnects 1 "B")=some t)
      (hu : step t (.agentConnects 2 "A")=some u) : u.sockets 1=some ⟨.agent,"B","",.open⟩ := by
    cases ht
    cases hu
    rfl
  have hok : Along step StepOk (State.start noStore) (greeting "hello") := by
    refine ⟨trivial,fun t ht => ⟨trivial,fun u hu => ⟨fun socket hs _ => ?_,fun v hv => ⟨trivial,fun _ _ => trivial⟩⟩⟩⟩
    rw [hsocket t u ht hu] at hs
    cases hs
    exact ⟨fun _ _ => Or.inl rfl,fun ho => nomatch ho⟩
  have halike : RunsAlike "B" (State.start noStore) (greeting "hello") (greeting "bye") := by
    refine ⟨.refl _,fun t ht => ⟨.refl _,fun u hu => ⟨.said fun socket hs => ?_,fun v hv => ⟨.refl _,fun _ _ => trivial⟩⟩⟩⟩
    rw [hsocket t u ht hu] at hs
    cases hs
    exact Or.inr ⟨⟨rfl,fun _ => rfl⟩,rfl,by decide⟩
  have hrun : (exec step (State.start noStore) (greeting "hello")).map (State.view · "A")=some [.welcome "A" 6] := by
    decide
  obtain ⟨t,ht,hwelcome⟩:=map_eq_some_iff.mp hrun
  have hgroup (tag : String) : "B"≠"group:" ++ tag := by
    intro h
    have := congrArg String.toList h
    simp at this
  obtain ⟨t',ht',hview⟩:=(agents_see_their_own noStore (greeting "hello")).2 hok "A" "B" noStore (greeting "bye")
    (by decide) hgroup (StoreAlike.refl _) halike t ht
  exact ⟨t,t',ht,ht',hwelcome,hview⟩

/-- A message of the conversation of `B` on the server, and a group of `AB`. -/
def office (text : String) : Store := ⟨[⟨1,"B","B","B","",text,false,0⟩],1,[⟨"1","Staff","AB","admin",0⟩],[],[]⟩

/-- The agent of `A` asks for the history of `B`. -/
def askHistory : List Event :=
  [.agentConnects 1 "A",.frame 1 (.getHistory (.str "B")) 5,.answered 3 true "" 6]

def received (store : Store) (es : List Event) (f : Frame) : Bool :=
  (exec step (State.start store) es).any fun s => f∈s.view "A"

/-- An agent gets the history of another device and so sees the difference of two runs, writes in its
conversation, is shown groups whose members only contain its id, and gets what an operator of its
room says to a device without a room. -/
theorem conversations_shared :
    (¬ ∀ (store : Store) (es : List Event) (s : State), exec step (State.start store) es=some s → Isolated s) ∧
    received (office "secret") askHistory (.history "B" (.str "B") [⟨1,"B","B","B","","secret",false,0⟩])=true ∧
    received (office "other") askHistory (.history "B" (.str "B") [⟨1,"B","B","B","","secret",false,0⟩])=false ∧
    (exec step (State.start noStore) [.agentConnects 1 "A",.frame 1 (.said .message (.str "B") .falsy "hello") 5,
      .answered 3 true "" 6]).map (fun s => s.store.messages)=some [⟨1,"B","A","A","","hello",false,6⟩] ∧
    received (office "") [.agentConnects 1 "A",.answered 2 true "" 5] (.groups [⟨"1","Staff","AB","admin",0⟩])=true ∧
    received noStore [.agentConnects 1 "A",.operatorConnects 2 "A" "eve",
      .frame 2 (.said .typing (.str "C") .falsy "") 5]
      (.said ⟨.typing,"operator",.str "eve",some "eve",.str "C","C","",5⟩)=true := by
  refine ⟨fun hall => ?_,by decide,by decide,by decide,by decide,by decide⟩
  have hrun : (exec step (State.start (office "")) askHistory).any (fun s => s.log.any fun x =>
      x.receiver=some "A"&&x.groups=[⟨"1","Staff","AB","admin",0⟩] &&
        x.act=.sent 1 (.history "B" (.str "B") [⟨1,"B","B","B","","",false,0⟩]))=true := by decide
  obtain ⟨s,hs,hlog⟩:=(any_eq_true _ _).mp hrun
  obtain ⟨x,hx,hseen⟩:=any_eq_true.mp hlog
  simp only [Bool.and_eq_true,decide_eq_true_eq] at hseen
  obtain ⟨⟨hd,hg⟩,hact⟩:=hseen
  have hfor:=(hall (office "") askHistory s hs x hx).receiver "A" hd
  rw [hact,hg] at hfor
  obtain hown | ⟨g,hmem,hid,-⟩:=hfor
  · exact absurd (Value.str.inj hown) (by decide)
  · rw [mem_singleton.mp hmem] at hid
    exact absurd (Value.str.inj hid) (by decide)

end BetterDesk.Panel.Chat
