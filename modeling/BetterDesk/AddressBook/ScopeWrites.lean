import BetterDesk.AddressBook.Handlers
import BetterDesk.Lib.Exec

/-! # Posted tags against the device scope -/

namespace BetterDesk.AddressBook
open Text Auth Db Api Json Exec List Function

structure Post where
  env : PostEnv
  abType : AbType
  posted : Posted

def Post.result (p : Post) (ctx : Ctx) (s : Books) : Books :=
  handleClientAddressBookPost p.env s ctx p.abType p.posted

def postStep (ctx : Ctx) (s : Books) (p : Post) : Option Books := some (p.result ctx s)

variable (scope : Scope) (ctx : Ctx) (inventory : PeerID → Bool)

def Books.listed (s : Books) : List Peer := (livePeers s.peers).filter fun p => inventory p.id

def inScope (s : Books) (id : PeerID) : Bool :=
  (visibleTo scope ctx (s.listed inventory)).all fun visible => visible id

def tagsOf (s : Books) (id : PeerID) : List String := (s.peers.filter fun p => p.id=id).map Peer.tags

structure Confined (s : Books) (p : Post) : Prop where
  devices : ∀ id, inScope scope ctx inventory (p.result ctx s) id=true → inScope scope ctx inventory s id=true
  tags : ∀ id, tagsOf (p.result ctx s) id≠tagsOf s id → inScope scope ctx inventory s id=true

def Post.writes (p : Post) (ctx : Ctx) : List (PeerID × String) :=
  let data:=normalizeAbDataField p.posted
  if ctx.username="" ∨ (p.abType=.personal ∧ abDataFieldPresent p.posted=false) ∨
      p.env.tooLarge data=true ∨ p.env.fails (.saveAddressBook p.abType)=true ∨
      canSyncTags ctx.role=false then []
  else (postedTags p.env data).filter fun w => !p.env.fails (.updatePeerTags w.1)

def tagsInScope (s : Books) (p : Post) : Bool :=
  (p.writes ctx).all fun w =>
    (s.peers.all fun row => row.id≠w.1||row.tags=w.2)||inScope scope ctx inventory s w.1

def retag (row : Peer) (w : PeerID × String) : Peer := if row.id=w.1 then {row with tags := w.2} else row

def retagAll (ws : List (PeerID × String)) (row : Peer) : Peer := ws.foldl retag row

variable {scope ctx inventory} {s t : Books} {ws : List (PeerID × String)}

theorem retag_fields (row : Peer) (w : PeerID × String) : (retag row w).id=row.id ∧
    (retag row w).banned=row.banned ∧ (retag row w).softDeleted=row.softDeleted ∧
      (retag row w).disabled=row.disabled := by
  unfold retag
  split <;> exact ⟨rfl,rfl,rfl,rfl⟩

theorem retagAll_fields (ws : List (PeerID × String)) (row : Peer) : (retagAll ws row).id=row.id ∧
    (retagAll ws row).banned=row.banned ∧ (retagAll ws row).softDeleted=row.softDeleted ∧
      (retagAll ws row).disabled=row.disabled := by
  induction ws generalizing row with
  | nil => exact ⟨rfl,rfl,rfl,rfl⟩
  | cons w ws ih =>
    obtain ⟨hid,hb,hs,hd⟩:=ih (retag row w)
    obtain ⟨hid',hb',hs',hd'⟩:=retag_fields row w
    exact ⟨hid.trans hid',hb.trans hb',hs.trans hs',hd.trans hd'⟩

theorem retagAll_of_not_mem {row : Peer} (h : ∀ w∈ws,w.1≠row.id) : retagAll ws row=row := by
  induction ws with
  | nil => rfl
  | cons w ws ih =>
    have hw : retag row w=row := if_neg (h w mem_cons_self).symm
    exact (congrArg (retagAll ws) hw).trans (ih fun w' hw' => h w' (mem_cons_of_mem w hw'))

theorem retagAll_of_mem {row : Peer} {w : PeerID × String} (hws : (ws.map Prod.fst).Nodup) (hw : w∈ws)
    (hid : row.id=w.1) : retagAll ws row={row with tags := w.2} := by
  induction ws generalizing row with
  | nil => cases hw
  | cons w' ws ih =>
    rw [map_cons,nodup_cons] at hws
    rcases mem_cons.mp hw with rfl | hmem
    · have hstep : retag row w={row with tags := w.2} := if_pos hid
      refine (congrArg (retagAll ws) hstep).trans (retagAll_of_not_mem fun w' hw' he => hws.1 ?_)
      exact mem_map.mpr ⟨w',hw',he.trans hid⟩
    · have hne : row.id≠w'.1 := fun he => hws.1 (mem_map.mpr ⟨w,hmem,hid.symm.trans he⟩)
      exact (congrArg (retagAll ws) (if_neg hne : retag row w'=row)).trans (ih hws.2 hmem hid)

theorem foldl_updatePeerTags (ws : List (PeerID × String)) (fails : PeerID → Bool) (s : Books) :
    (ws.foldl (fun s w => if fails w.1 then s else s.updatePeerTags w.1 w.2) s).peers =
      s.peers.map (retagAll (ws.filter fun w => !fails w.1)) := by
  induction ws generalizing s with
  | nil => exact (map_id s.peers).symm
  | cons w ws ih =>
    rw [foldl_cons,ih,filter_cons]
    cases hf : fails w.1 with
    | true => rfl
    | false =>
      simp only [Bool.false_eq_true,if_false,Bool.not_false,if_true,Books.updatePeerTags,map_map]
      rfl

theorem result_peers (p : Post) (ctx : Ctx) (s : Books) :
    (p.result ctx s).peers=s.peers.map (retagAll (p.writes ctx)) := by
  have hid (l : List Peer) : l.map (retagAll [])=l := map_id l
  unfold Post.result handleClientAddressBookPost Post.writes
  dsimp only
  by_cases hname : ctx.username="" ∨ (p.abType=.personal ∧ abDataFieldPresent p.posted=false)
  · rw [if_pos hname,if_pos (by tauto),hid]
  · rw [if_neg hname]
    by_cases hsave : p.env.tooLarge (normalizeAbDataField p.posted)=true ∨
        p.env.fails (.saveAddressBook p.abType)=true
    · rw [if_pos hsave,if_pos (by tauto),hid]
    · rw [if_neg hsave,syncAddressBookTagsToPeers]
      cases hrole : canSyncTags ctx.role with
      | false => rw [if_neg Bool.false_ne_true,if_pos (by tauto),hid]; rfl
      | true =>
        rw [if_pos rfl,if_neg (by simp only [Bool.true_eq_false]; tauto)]
        exact foldl_updatePeerTags _ (fun id => p.env.fails (.updatePeerTags id)) _

theorem tagUpdates_fresh (env : PostEnv) (seen : List PeerID) (peers : List Members) :
    ((tagUpdates env seen peers).map Prod.fst).Nodup ∧
      ∀ w∈tagUpdates env seen peers, w.1∉seen ∧ trimString w.1=w.1 := by
  induction peers generalizing seen with
  | nil => exact ⟨nodup_nil,fun w hw => absurd hw not_mem_nil⟩
  | cons p rest ih =>
    rw [tagUpdates]
    split
    · exact ih seen
    · rename_i hfresh
      rw [not_or] at hfresh
      split
      · exact ih seen
      · obtain ⟨hnodup,hall⟩:=ih (trimString (idOf p)::seen)
        refine ⟨?_,fun w hw => ?_⟩
        · rw [map_cons,nodup_cons]
          refine ⟨fun hmem => ?_,hnodup⟩
          obtain ⟨w,hw,he⟩:=mem_map.mp hmem
          exact (hall w hw).1 (he ▸ mem_cons_self)
        · rcases mem_cons.mp hw with rfl | hw
          · exact ⟨hfresh.2,trimString_trimString _⟩
          · exact ⟨fun hin => (hall w hw).1 (mem_cons_of_mem _ hin),(hall w hw).2⟩

theorem writes_fresh (p : Post) (ctx : Ctx) : ((p.writes ctx).map Prod.fst).Nodup ∧
    ∀ w∈p.writes ctx, trimString w.1=w.1 := by
  unfold Post.writes
  dsimp only
  split
  · exact ⟨nodup_nil,fun w hw => absurd hw not_mem_nil⟩
  · have hposted : ((postedTags p.env (normalizeAbDataField p.posted)).map Prod.fst).Nodup ∧
        ∀ w∈postedTags p.env (normalizeAbDataField p.posted), trimString w.1=w.1 := by
      unfold postedTags
      split
      · split
        · obtain ⟨hnodup,hall⟩:=tagUpdates_fresh p.env [] _
          exact ⟨hnodup,fun w hw => (hall w hw).2⟩
        · exact ⟨nodup_nil,fun w hw => absurd hw not_mem_nil⟩
      · exact ⟨nodup_nil,fun w hw => absurd hw not_mem_nil⟩
    exact ⟨hposted.1.sublist (filter_sublist.map _),fun w hw => hposted.2 w (mem_of_mem_filter hw)⟩

section Devices
variable {f : Peer → Peer} {peers : List Peer} {id : PeerID}

structure Aside (f : Peer → Peer) (peers : List Peer) (id : PeerID) : Prop where
  ids : ∀ row, (f row).id=row.id
  rows : ∀ row∈peers,trimString row.id=id → f row=row

theorem knownPeer_map (hf : ∀ row, (f row).id=row.id) (peers : List Peer) (id : PeerID) :
    knownPeer (peers.map f) id=knownPeer peers id := by
  simp only [knownPeer,any_map,comp_def,hf]

theorem mem_panelGroupPeerIDs {u : Unicode} {panel : Panel} {g : DeviceGroup} :
    id∈panelGroupPeerIDs u panel g peers none ↔ id≠"" ∧ knownPeer peers id=true ∧
      ((∃ m∈panel.groupMembers g.id, trimString m=id) ∨ ∃ row∈taggedPeers u g peers, trimString row.id=id) := by
  unfold panelGroupPeerIDs
  rw [mem_eraseDups,mem_filter,map_append,mem_append,mem_map,map_map,mem_map]
  simp only [Option.all_none,Bool.and_true,Bool.and_eq_true,decide_eq_true_eq,comp_apply]
  rw [and_comm,and_assoc]

theorem mem_groupArea_map (h : Aside f peers id) (u : Unicode) (panel : Panel) (g : DeviceGroup) :
    id∈(groupArea u panel (peers.map f) g).peerIDs ↔ id∈(groupArea u panel peers g).peerIDs := by
  refine mem_panelGroupPeerIDs.trans (Iff.trans ?_ mem_panelGroupPeerIDs.symm)
  rw [knownPeer_map h.ids]
  refine and_congr_right fun _ => and_congr_right fun _ => or_congr_right ?_
  unfold taggedPeers
  split
  · constructor
    · rintro ⟨row',hmem,hid⟩
      obtain ⟨hrow',htag⟩:=mem_filter.mp hmem
      obtain ⟨row,hrow,rfl⟩:=mem_map.mp hrow'
      rw [h.ids] at hid
      rw [h.rows row hrow hid] at htag
      exact ⟨row,mem_filter.mpr ⟨hrow,htag⟩,hid⟩
    · rintro ⟨row,hmem,hid⟩
      obtain ⟨hrow,htag⟩:=mem_filter.mp hmem
      have hsame : f row=row := h.rows row hrow hid
      exact ⟨row,mem_filter.mpr ⟨mem_map.mpr ⟨row,hrow,hsame⟩,htag⟩,hid⟩
  · exact ⟨fun ⟨_,hmem,_⟩ => absurd hmem not_mem_nil,fun ⟨_,hmem,_⟩ => absurd hmem not_mem_nil⟩

theorem folderArea_map (hf : ∀ row, (f row).id=row.id) (panel : Panel) (peers : List Peer) (folder : ℤ) :
    folderArea panel (peers.map f) folder=folderArea panel peers folder := by
  simp only [folderArea,knownPeer_map hf]

theorem any_panelAreas (u : Unicode) (panel : Panel) (groups : List DeviceGroup) (peers : List Peer)
    (P : Area → Bool) : (panelAreas u panel groups peers).any P =
      ((groups.any fun g => (groupArea u panel peers g).listed&&P (groupArea u panel peers g)) ||
        panel.folders.any fun e => (folderArea panel peers e).listed&&P (folderArea panel peers e)) := by
  simp only [panelAreas,any_filter,any_append,any_map,comp_def]

theorem any_panelAreas_map (h : Aside f peers id) (u : Unicode) (panel : Panel) (groups : List DeviceGroup)
    (given : List String → List String → Bool) : ((panelAreas u panel groups (peers.map f)).any fun a =>
        given a.allowedUsers a.allowedGroups&&decide (id∈a.peerIDs)) =
      (panelAreas u panel groups peers).any fun a =>
        given a.allowedUsers a.allowedGroups&&decide (id∈a.peerIDs) := by
  have hgroup (g : DeviceGroup) : decide (id∈(groupArea u panel (peers.map f) g).peerIDs) =
      decide (id∈(groupArea u panel peers g).peerIDs) :=
    decide_eq_decide.mpr (mem_groupArea_map h u panel g)
  rw [any_panelAreas,any_panelAreas]
  simp only [folderArea_map h.ids,hgroup]
  rfl

theorem panelAreas_eq_nil (f : Peer → Peer) (hf : ∀ row, (f row).id=row.id) (u : Unicode) (panel : Panel)
    (groups : List DeviceGroup) (peers : List Peer) :
    panelAreas u panel groups (peers.map f)=[] ↔ panelAreas u panel groups peers=[] := by
  have hnil (l : List Area) : l=[] ↔ (l.any fun _ => true)=false := by
    cases l with
    | nil => simp
    | cons a l => simp
  rw [hnil,hnil,any_panelAreas,any_panelAreas]
  simp only [folderArea_map hf]
  rfl

theorem visible_map (h : Aside f peers id) (u : Unicode) (panel : Option Panel) (user : ScopeUser) (role : Role) :
    ((rustDeskVisiblePeerSet u panel user role (peers.map f)).all fun visible => visible id) =
      (rustDeskVisiblePeerSet u panel user role peers).all fun visible => visible id := by
  unfold rustDeskVisiblePeerSet
  split
  · rfl
  · split
    · rfl
    · rename_i panel
      split
      · rfl
      · rename_i groups _
        simp only [panelAreas_eq_nil f h.ids,knownPeer_map h.ids]
        split
        · rfl
        · simp only [Option.all_some]
          rw [any_panelAreas_map h u panel groups fun users guids =>
              panelAccessAllowed user role (consoleUserGroupGUIDs panel user.id) users guids,
            any_panelAreas_map h u panel groups fun users guids =>
              !panelAccessAllowed user role (consoleUserGroupGUIDs panel user.id) users guids]

end Devices

theorem listed_map (h : t.peers=s.peers.map (retagAll ws)) (inventory : PeerID → Bool) :
    t.listed inventory=(s.listed inventory).map (retagAll ws) := by
  have hfields (row : Peer) := retagAll_fields ws row
  simp only [Books.listed,livePeers,h,filter_map,comp_def,(hfields _).1,(hfields _).2.1,
    (hfields _).2.2.1,(hfields _).2.2.2]

theorem retagAll_eq_self (hfresh : (ws.map Prod.fst).Nodup) {row : Peer}
    (h : ∀ w∈ws,w.1=row.id → row.tags=w.2) : retagAll ws row=row := by
  by_cases hmem : ∃ w∈ws,w.1=row.id
  · obtain ⟨w,hw,hid⟩:=hmem
    rw [retagAll_of_mem hfresh hw hid.symm,← h w hw hid]
  · push Not at hmem
    exact retagAll_of_not_mem hmem

theorem tagsOf_map (h : t.peers=s.peers.map (retagAll ws)) (id : PeerID) :
    tagsOf t id=(s.peers.filter fun row => row.id=id).map fun row => (retagAll ws row).tags := by
  have hids (row : Peer) := (retagAll_fields ws row).1
  simp only [tagsOf,h,filter_map,map_map,comp_def,hids]

theorem confined_iff (p : Post) : Confined scope ctx inventory s p ↔ tagsInScope scope ctx inventory s p=true := by
  obtain ⟨hnodup,htrim⟩:=writes_fresh p ctx
  have hpeers:=result_peers p ctx s
  unfold tagsInScope
  rw [all_eq_true]
  constructor
  · intro hconf w hw
    rw [Bool.or_eq_true,all_eq_true]
    by_cases hsame : ∀ row∈s.peers,(row.id≠w.1||row.tags=w.2 : Bool)=true
    · exact .inl hsame
    · right
      push Not at hsame
      obtain ⟨row,hrow,hdiff⟩:=hsame
      simp only [ne_eq,Bool.or_eq_true,decide_eq_true_eq,not_or,not_not] at hdiff
      refine hconf.tags w.1 fun hno => hdiff.2 ?_
      have hold : row.tags∈tagsOf s w.1 :=
        mem_map_of_mem (mem_filter.mpr ⟨hrow,decide_eq_true hdiff.1⟩)
      rw [← hno,tagsOf_map hpeers] at hold
      obtain ⟨row',hrow',htags⟩:=mem_map.mp hold
      have hid : row'.id=w.1 := by simpa using (mem_filter.mp hrow').2
      rw [← htags,retagAll_of_mem hnodup hw hid]
  · intro hall
    have hdecide (id : PeerID) : inScope scope ctx inventory s id=true ∨
        ∀ row∈s.peers,row.id=id → retagAll (p.writes ctx) row=row := by
      by_cases hw : ∃ w∈p.writes ctx, w.1=id ∧ ∃ row∈s.peers,row.id=id ∧ row.tags≠w.2
      · obtain ⟨w,hw,rfl,row,hrow,hid,htags⟩:=hw
        refine .inl ((Bool.or_eq_true_iff.mp (hall w hw)).resolve_left fun hsame => ?_)
        have hrow':=all_eq_true.mp hsame row hrow
        simp [hid,htags] at hrow'
      · push Not at hw
        exact .inr fun row hrow hid => retagAll_eq_self hnodup fun w hmem he =>
          hw w hmem (he.trans hid) row hrow hid
    refine ⟨fun id hin => ?_,fun id hne => ?_⟩
    · rcases hdecide id with hs | hsame
      · exact hs
      · have haside : Aside (retagAll (p.writes ctx)) (s.listed inventory) id := by
          refine ⟨fun row => (retagAll_fields _ row).1,fun row hrow hid => ?_⟩
          have hmem : row∈s.peers := mem_of_mem_filter (mem_of_mem_filter hrow)
          by_cases he : row.id=id
          · exact hsame row hmem he
          · refine retagAll_of_not_mem fun w hw hw' => he ?_
            rw [← hid,← hw',htrim w hw]
        rw [inScope,listed_map hpeers] at hin
        rw [inScope]
        exact (visible_map haside ..).symm.trans hin
    · rcases hdecide id with hs | hsame
      · exact hs
      · refine absurd ?_ hne
        rw [tagsOf_map hpeers,tagsOf]
        refine map_congr_left fun row hrow => ?_
        obtain ⟨hmem,hid⟩:=mem_filter.mp hrow
        rw [hsame row hmem (by simpa using hid)]

variable (scope ctx inventory) in
/-- Between two states: nothing came into the scope, and what is outside of it has
the tags it had. -/
structure KeepsScope (s t : Books) : Prop where
  devices : ∀ id, inScope scope ctx inventory t id=true → inScope scope ctx inventory s id=true
  tags : ∀ id, inScope scope ctx inventory s id=false → tagsOf t id=tagsOf s id

theorem keepsScope_step {p : Post} (h : KeepsScope scope ctx inventory s t)
    (hconf : Confined scope ctx inventory t p) : KeepsScope scope ctx inventory s (p.result ctx t) := by
  refine ⟨fun id hin => h.devices id (hconf.devices id hin),fun id hout => ?_⟩
  by_contra hne
  have hchanged : tagsOf (p.result ctx t) id≠tagsOf t id := fun he => hne (he.trans (h.tags id hout))
  exact Bool.false_ne_true (hout.symm.trans (h.devices id (hconf.tags id hchanged)))

/-- Exactly the sequences that write no other tags than those of the scope. -/
theorem scope_not_widened (scope : Scope) (ctx : Ctx) (inventory : PeerID → Bool) (s : Books)
    (posts : List Post) : (Along (postStep ctx) (Confined scope ctx inventory) s posts ∧
        ∀ t, exec (postStep ctx) s posts=some t → KeepsScope scope ctx inventory s t) ↔
      Along (postStep ctx) (fun s p => tagsInScope scope ctx inventory s p=true) s posts := by
  constructor
  · exact fun h => h.1.mono fun s p => (confined_iff p).mp
  · intro h
    have hconf : Along (postStep ctx) (Confined scope ctx inventory) s posts :=
      h.mono fun s p => (confined_iff p).mpr
    refine ⟨hconf,fun t ht => ?_⟩
    refine exec_invariant (KeepsScope scope ctx inventory s) ?_ ⟨fun _ hin => hin,fun _ _ => rfl⟩ hconf ht
    rintro t p t' hk hp ⟨⟩
    exact keepsScope_step hk hp

def latin : Unicode := ⟨lowerString,fun a b => lowerString a=lowerString b⟩

/-- Devices tagged `lab` are given to `ops`, and no others. -/
def labPanel : Panel where
  restrictedDefault := true
  userIDByUsername _ := none
  userPeerGrants _ := []
  userGroupGUIDs _ := []
  deviceGroups := some [⟨1,"tag","Lab",["ops"],[]⟩]
  groupMembers _ := []
  folders := []
  folderAccess _ := ([],[])
  folderAssignments := []

def labScope : Scope := ⟨latin,some labPanel,some ⟨5,"ops"⟩,none⟩

def opsCtx : Ctx := ⟨roleOperator,"ops",""⟩

def twoDevices : Books := ⟨fun _ _ => .braces,
  [⟨"device-07","","","","lab",false,false,false⟩,⟨"device-08","","","","",false,false,false⟩]⟩

def labPost : Post := ⟨⟨fun _ => false,fun _ => none,fun _ => false⟩,.legacy,
  .text (.json (.obj [("peers",.arr [.obj [("id",.str "device-08"),("tags",.arr [.str "lab"])]])]))⟩

theorem post_widens_scope :
    ¬ (∀ (scope : Scope) (ctx : Ctx) (s : Books) (posts : List Post), unscopedRole ctx.role=false →
        Along (postStep ctx) (Confined scope ctx fun _ => true) s posts) ∧
      inScope labScope opsCtx (fun _ => true) twoDevices "device-08" = false ∧
      inScope labScope opsCtx (fun _ => true) (labPost.result opsCtx twoDevices) "device-08" = true := by
  have hbefore : inScope labScope opsCtx (fun _ => true) twoDevices "device-08" = false := by decide
  have hafter : inScope labScope opsCtx (fun _ => true) (labPost.result opsCtx twoDevices) "device-08" = true := by
    decide
  refine ⟨fun h => ?_,hbefore,hafter⟩
  have hconf:=(h labScope opsCtx twoDevices [labPost] (by decide)).1
  exact Bool.false_ne_true (hbefore.symm.trans (hconf.devices _ hafter))

end BetterDesk.AddressBook
