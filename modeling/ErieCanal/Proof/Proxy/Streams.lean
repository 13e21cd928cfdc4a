import ErieCanal.Construction.Proxy.Streams
import ErieCanal.Proof.Proxy.PresentedSecrets

namespace ErieCanal.Proxy
open Lib Route

namespace Sessions
variable {proxy next : Sessions} {stream : Stream} {selection : Selection} {script : Script}
  {sourceIP route : String} {service : ServiceEntry} {index : Nat} {event : StreamEvent}
  {steps : List StreamEvent} (stepped : machine.step proxy event = some next)

/-- What a balancer is asked for leaves the streams and the connections alone. -/
structure SameRest (before after : Sessions) : Prop where
  script : after.script = before.script
  streams : after.streams = before.streams
  deselects : after.deselects = before.deselects
  connectionPool : after.connectionPool = before.connectionPool

theorem SameRest.refl (proxy : Sessions) : SameRest proxy proxy := ⟨rfl, rfl, rfl, rfl⟩

theorem select_rest : SameRest proxy (proxy.select selection sourceIP route service).2 := by
  rw [select]
  split
  · split
    · exact .refl proxy
    · exact ⟨rfl, rfl, rfl, rfl⟩
  · exact ⟨rfl, rfl, rfl, rfl⟩

theorem messageStart_rest :
    SameRest proxy (proxy.messageStart selection sourceIP route stream).2 := by
  simp only [messageStart, serviceTarget]
  split
  · exact .refl proxy
  · split
    · exact .refl proxy
    · exact select_rest

theorem messageStart_targetCache :
    (proxy.messageStart selection sourceIP route stream).1.targetCache = stream.targetCache := by
  simp only [messageStart, serviceTarget]
  split
  · rfl
  · split
    · rfl
    · rfl

/-- The target of the stream is connected, and a new connection goes to the stream only. -/
theorem muxHTTP_cases (stream : Stream) (proxy : Sessions) :
    (proxy.muxHTTP stream = (stream, proxy) ∧ ∀ target, stream.context.target = some target →
        ∃ connection, (target, connection) ∈ stream.targetCache) ∨
      ∃ target, stream.context.target = some target ∧ proxy.muxHTTP stream =
        ({ stream with targetCache :=
            stream.targetCache ++ [(target, (proxy.connectionPool.allocate target).1)] },
          { proxy with connectionPool := (proxy.connectionPool.allocate target).2 }) := by
  rw [muxHTTP]
  split
  next absent =>
    refine .inl ⟨rfl, ?_⟩
    intro target present
    cases absent.symm.trans present
  next target present =>
    split
    next connection found =>
      refine .inl ⟨rfl, ?_⟩
      intro other same
      cases present.symm.trans same
      exact ⟨connection, AlgoCache.mem_of_get found⟩
    next => exact .inr ⟨target, present, rfl⟩

/-- A message changes its stream, asks the balancer of its service and takes a connection. -/
structure Messaged (proxy : Sessions) (stream : Stream) (result : Stream × Sessions) : Prop where
  script : result.2.script = proxy.script
  streams : result.2.streams = proxy.streams
  deselects : result.2.deselects = proxy.deselects
  connections : (result.1.targetCache = stream.targetCache ∧
      result.2.connectionPool = proxy.connectionPool) ∨
    ∃ target, result.1.targetCache =
        stream.targetCache ++ [(target, (proxy.connectionPool.allocate target).1)] ∧
      result.2.connectionPool = (proxy.connectionPool.allocate target).2
  connected : ∀ target, result.1.context.target = some target →
    ∃ connection, (target, connection) ∈ result.1.targetCache

theorem messaged (selection : Selection) (sourceIP route : String) (stream : Stream)
    (proxy : Sessions) : Messaged proxy stream (message selection sourceIP route stream proxy) := by
  rw [message]
  have rest : SameRest proxy (proxy.messageStart selection sourceIP route stream).2 :=
    messageStart_rest
  have cache : (proxy.messageStart selection sourceIP route stream).1.targetCache =
    stream.targetCache := messageStart_targetCache
  generalize proxy.messageStart selection sourceIP route stream = started at rest cache
  obtain ⟨begun, asked⟩ := started
  dsimp only at rest cache ⊢
  rcases muxHTTP_cases begun asked with ⟨same, connected⟩ | ⟨target, present, allocated⟩
  · rw [same]
    exact ⟨rest.script, rest.streams, rest.deselects, .inl ⟨cache, rest.connectionPool⟩, connected⟩
  · rw [allocated, rest.connectionPool]
    refine ⟨rest.script, rest.streams, rest.deselects, .inr ⟨target, ?_, rfl⟩, ?_⟩
    · rw [cache]
    · intro other chosen
      cases present.symm.trans chosen
      exact ⟨_, List.mem_append_right _ List.mem_cons_self⟩

theorem change_cases {step : Stream → Sessions → Stream × Sessions}
    (changed : proxy.change index step = some next) :
    ∃ stream, proxy.streams[index]? = some stream ∧
      next = { (step stream proxy).2 with
        streams := (step stream proxy).2.streams.set index (step stream proxy).1 } := by
  rw [change] at changed
  split at changed
  next => cases changed
  next stream found =>
    split at changed
    next running =>
      cases changed
      exact ⟨stream, found, rfl⟩
    next => cases changed

include stepped in
/-- A step starts a stream, or it works on one. -/
theorem step_cases :
    (event = .start ∧ next = { proxy with streams := proxy.streams ++ [{}] }) ∨
      (∃ index stream selection sourceIP route,
        event = .message index selection sourceIP route ∧ proxy.streams[index]? = some stream ∧
        next = { (message selection sourceIP route stream proxy).2 with
          streams := proxy.streams.set index (message selection sourceIP route stream proxy).1 }) ∨
      ∃ index stream, event = .finish index ∧ proxy.streams[index]? = some stream ∧
        next = { (streamEnd stream proxy).2 with
          streams := proxy.streams.set index (streamEnd stream proxy).1 } := by
  cases event with
  | start =>
      cases stepped
      exact .inl ⟨rfl, rfl⟩
  | message index selection sourceIP route =>
      have changed : proxy.change index (message selection sourceIP route) = some next := stepped
      obtain ⟨stream, found, same⟩ := change_cases changed
      rw [(messaged selection sourceIP route stream proxy).streams] at same
      exact .inr (.inl ⟨index, stream, selection, sourceIP, route, rfl, found, same⟩)
  | finish index =>
      have changed : proxy.change index streamEnd = some next := stepped
      obtain ⟨stream, found, same⟩ := change_cases changed
      exact .inr (.inr ⟨index, stream, rfl, found, same⟩)

/-- The connections that are in use are those of the streams. -/
structure Leased (proxy : Sessions) : Prop where
  sound : proxy.connectionPool.Sound
  held : proxy.connectionPool.busy.Perm (proxy.streams.flatMap Stream.targetCache)

theorem leased_new (script : Script) : (new script).Leased := ⟨ResourcePool.sound_new, .refl _⟩

theorem Leased.message (leased : proxy.Leased) (found : proxy.streams[index]? = some stream)
    {result : Stream × Sessions} (messaged : Messaged proxy stream result) :
    Leased { result.2 with streams := proxy.streams.set index result.1 } := by
  rcases messaged.connections with ⟨cache, pool⟩ | ⟨target, cache, pool⟩
  · have held := flatMap_set_append found (cache.trans (List.append_nil _).symm)
    rw [List.append_nil] at held
    refine ⟨pool ▸ leased.sound, ?_⟩
    dsimp only
    rw [pool]
    exact leased.held.trans held.symm
  · refine ⟨pool ▸ leased.sound.allocate, ?_⟩
    dsimp only
    rw [pool, ResourcePool.busy_allocate]
    refine (leased.held.cons _).trans ?_
    exact (List.perm_append_singleton _ _).symm.trans (flatMap_set_append found cache).symm

theorem Leased.finish (leased : proxy.Leased) (found : proxy.streams[index]? = some stream) :
    Leased { (streamEnd stream proxy).2 with
      streams := proxy.streams.set index (streamEnd stream proxy).1 } := by
  have given : (stream.targetCache ++ (proxy.streams.set index
      (streamEnd stream proxy).1).flatMap Stream.targetCache).Perm
        (proxy.streams.flatMap Stream.targetCache) := flatMap_set_nil found rfl
  have freed := leased.sound.busy_foldl_free (leased.held.trans given.symm)
  exact ⟨freed.1, freed.2⟩

include stepped in
theorem Leased.step (leased : proxy.Leased) : next.Leased := by
  rcases step_cases stepped with ⟨-, rfl⟩ | ⟨index, stream, _, _, _, -, found, rfl⟩ |
    ⟨index, stream, -, found, rfl⟩
  · exact ⟨leased.sound, by simpa using leased.held⟩
  · exact leased.message found (messaged ..)
  · exact leased.finish found

/-- The stream has a connection to its target. -/
def Connected (stream : Stream) : Prop :=
  stream.running = true → ∀ target, stream.context.target = some target →
    ∃ connection, (target, connection) ∈ stream.targetCache

include stepped in
/-- A property of all streams is kept if the stream that is new or has changed has it. -/
theorem forall_step {property : Stream → Prop}
    (all : ∀ stream ∈ proxy.streams, property stream) (started : property {})
    (sent : ∀ stream ∈ proxy.streams, ∀ selection sourceIP route,
      property (message selection sourceIP route stream proxy).1)
    (ended : ∀ stream ∈ proxy.streams, property (streamEnd stream proxy).1) :
    ∀ stream ∈ next.streams, property stream := by
  intro other member
  rcases step_cases stepped with ⟨-, rfl⟩ | ⟨index, stream, _, _, _, -, found, rfl⟩ |
    ⟨index, stream, -, found, rfl⟩
  · rcases List.mem_append.mp member with old | new
    · exact all other old
    · rw [List.mem_singleton.mp new]
      exact started
  · rcases List.mem_or_eq_of_mem_set member with old | rfl
    · exact all other old
    · exact sent stream (List.mem_of_getElem? found) _ _ _
  · rcases List.mem_or_eq_of_mem_set member with old | rfl
    · exact all other old
    · exact ended stream (List.mem_of_getElem? found)

include stepped in
theorem connected_step (all : ∀ stream ∈ proxy.streams, Connected stream) :
    ∀ stream ∈ next.streams, Connected stream := by
  refine forall_step stepped all ?_ ?_ ?_
  · intro _ target present
    cases present
  · intro stream _ selection sourceIP route _
    exact (messaged selection sourceIP route stream proxy).connected
  · intro stream _ running
    cases running

include stepped in
/-- A connection stays with its target. -/
theorem mem_all_step {entry : String × Nat} (member : entry ∈ proxy.connectionPool.all) :
    entry ∈ next.connectionPool.all := by
  rcases step_cases stepped with ⟨-, rfl⟩ | ⟨index, stream, _, _, _, -, found, rfl⟩ |
    ⟨index, stream, -, found, rfl⟩
  · exact member
  · dsimp only
    rcases (messaged ..).connections with ⟨-, pool⟩ | ⟨target, -, pool⟩
    · rw [pool]
      exact member
    · rw [pool]
      exact ResourcePool.mem_all_allocate member
  · exact ResourcePool.mem_all_foldl_free stream.targetCache member

theorem Leased.mem_all (leased : proxy.Leased) {entry : String × Nat}
    (member : stream ∈ proxy.streams) (held : entry ∈ stream.targetCache) :
    entry ∈ proxy.connectionPool.all :=
  List.mem_append_right _ (leased.held.mem_iff.mpr (List.mem_flatMap.mpr ⟨stream, member, held⟩))

/-- No two streams share a connection. -/
theorem Leased.index_eq (leased : proxy.Leased) {first second : Nat} {other : Stream}
    {target target' : String} {connection : Nat} (found : proxy.streams[first]? = some stream)
    (found' : proxy.streams[second]? = some other)
    (held : (target, connection) ∈ stream.targetCache)
    (held' : (target', connection) ∈ other.targetCache) : first = second := by
  have member := leased.mem_all (List.mem_of_getElem? found) held
  have member' := leased.mem_all (List.mem_of_getElem? found') held'
  obtain rfl := leased.sound.tag_eq member member'
  have busy := (List.nodup_append.mp (List.Nodup.of_map _ leased.sound.distinct)).2.1
  exact index_eq_of_nodup (leased.held.nodup_iff.mp busy) found found' held held'

/-- Every running stream has a connection to its target. No two streams share a connection, and a
connection that is used again is always one to the same target. -/
theorem run_connections {more : List StreamEvent} {later : Sessions}
    (reached : machine.run (new script) steps = some proxy)
    (continued : machine.run proxy more = some later) :
    (∀ stream ∈ proxy.streams, Connected stream) ∧
      (∀ (first second : Nat) (stream other : Stream) target target' connection,
        proxy.streams[first]? = some stream → proxy.streams[second]? = some other →
        (target, connection) ∈ stream.targetCache → (target', connection) ∈ other.targetCache →
          first = second) ∧
      ∀ stream ∈ proxy.streams, ∀ other ∈ later.streams, ∀ target target' connection,
        (target, connection) ∈ stream.targetCache → (target', connection) ∈ other.targetCache →
          target = target' := by
  have leased : proxy.Leased :=
    Machine.run_preserves _ (fun _ _ _ held stepped => held.step stepped) (leased_new script) reached
  have leased' : later.Leased :=
    Machine.run_preserves _ (fun _ _ _ held stepped => held.step stepped) leased continued
  refine ⟨?_, ?_, ?_⟩
  · exact Machine.run_preserves _ (fun _ _ _ all stepped => connected_step stepped all)
      (List.forall_mem_nil _) reached
  · intro first second stream other target target' connection found found' held held'
    exact leased.index_eq found found' held held'
  · intro stream member other member' target target' connection held held'
    have kept : (target, connection) ∈ later.connectionPool.all :=
      Machine.run_preserves _ (fun _ _ _ known stepped => mem_all_step stepped known)
        (leased.mem_all member held) continued
    exact leased'.sound.tag_eq kept (leased'.mem_all member' held')

/-- A client sends a message in a stream of its own and ends the stream. -/
def exampleStream (index : Nat) : List StreamEvent :=
  [.start, .message index .head "10.0.0.9" "web", .finish index]

def exampleScript : Script := Script.load id (Script.exampleServices "ca")

theorem run_connections_example :
    ∃ proxy later,
      machine.run (new exampleScript) (exampleStream 0 ++ (exampleStream 1).take 2) =
        some proxy ∧
      machine.run proxy ((exampleStream 2).take 2) = some later ∧
      ∀ stream ∈ proxy.streams, ∀ other ∈ later.streams, ∀ target target' connection,
        (target, connection) ∈ stream.targetCache → (target', connection) ∈ other.targetCache →
          target = target' :=
  ⟨_, _, rfl, rfl, (@run_connections _ exampleScript (exampleStream 0 ++ (exampleStream 1).take 2)
    ((exampleStream 2).take 2) _ rfl rfl).2.2⟩

/-- A sticky service remembers the targets of the source addresses. -/
def isSticky (script : Script) (route : String) : Bool :=
  (script.services.lookup route).any ServiceEntry.cache

/-- The targets that the sticky caches have, without their source addresses. -/
def stuck (sticky : List ((String × String) × Option String)) : List (String × Option String) :=
  sticky.map fun entry => (entry.1.1, entry.2)

/-- A service that is not sticky deselects what it has selected, and a sticky one selects once for
each source address. -/
structure Balanced (proxy : Sessions) : Prop where
  counted : proxy.nexts.Perm
    ((proxy.deselects ++ proxy.streams.flatMap Stream.serviceCache).filter
      (fun entry => !isSticky proxy.script entry.1) ++ stuck proxy.sticky)
  kept : ∀ entry ∈ proxy.sticky, isSticky proxy.script entry.1.1 = true
  once : (proxy.sticky.map Prod.fst).Nodup

/-- A message selects for its stream, asks the balancer and fills the sticky caches. -/
structure Asks (proxy : Sessions) (stream : Stream) (result : Stream × Sessions)
    (selected asked : List (String × Option String))
    (added : List ((String × String) × Option String)) : Prop where
  serviceCache : result.1.serviceCache = stream.serviceCache ++ selected
  nexts : result.2.nexts = proxy.nexts ++ asked
  sticky : result.2.sticky = proxy.sticky ++ added
  balanced : asked.Perm (selected.filter (fun entry => !isSticky proxy.script entry.1) ++ stuck added)
  kept : ∀ entry ∈ added, isSticky proxy.script entry.1.1 = true
  fresh : ∀ entry ∈ added, entry.1 ∉ proxy.sticky.map Prod.fst
  single : (added.map Prod.fst).Nodup

theorem asks_nothing (proxy : Sessions) (stream : Stream) (context : Context) :
    Asks proxy stream ({ stream with context }, proxy) [] [] [] := by
  exact ⟨(List.append_nil _).symm, (List.append_nil _).symm, (List.append_nil _).symm, .refl _,
    List.forall_mem_nil _, List.forall_mem_nil _, List.nodup_nil⟩

theorem messageStart_asks (addressed : sourceIP ≠ "") :
    ∃ selected asked added,
      Asks proxy stream (proxy.messageStart selection sourceIP route stream) selected asked added := by
  simp only [messageStart, serviceTarget]
  split
  next => exact ⟨[], [], [], asks_nothing ..⟩
  next service found =>
    split
    next => exact ⟨[], [], [], asks_nothing ..⟩
    next =>
      simp only [select, Sessions.next]
      split
      next both =>
        have sticky : isSticky proxy.script route = true := by
          rw [isSticky, found]
          exact both.1
        split
        next target remembered =>
          refine ⟨[(route, target)], [], [], rfl, (List.append_nil _).symm, (List.append_nil _).symm,
            ?_, List.forall_mem_nil _, List.forall_mem_nil _, List.nodup_nil⟩
          simp [sticky, stuck]
        next missed =>
          refine ⟨[(route, selection.pick service.targets)], [(route, selection.pick service.targets)],
            [((route, sourceIP), selection.pick service.targets)], rfl, rfl, rfl, ?_,
            List.forall_mem_singleton.mpr sticky,
            List.forall_mem_singleton.mpr (AlgoCache.not_mem_of_get missed), List.nodup_singleton _⟩
          simp [sticky, stuck]
      next neither =>
        have plain : isSticky proxy.script route = false := by
          rw [isSticky, found]
          exact Bool.eq_false_iff.mpr fun cached => neither ⟨cached, addressed⟩
        refine ⟨[(route, selection.pick service.targets)], [(route, selection.pick service.targets)],
          [], rfl, rfl, (List.append_nil _).symm, ?_, List.forall_mem_nil _, List.forall_mem_nil _,
          List.nodup_nil⟩
        simp [plain, stuck]

theorem message_asks (addressed : sourceIP ≠ "") :
    ∃ selected asked added,
      Asks proxy stream (message selection sourceIP route stream proxy) selected asked added := by
  obtain ⟨selected, asked, added, asks⟩ :=
    @messageStart_asks proxy stream selection sourceIP route addressed
  refine ⟨selected, asked, added, ?_⟩
  rw [message]
  generalize proxy.messageStart selection sourceIP route stream = started at asks
  obtain ⟨begun, questioned⟩ := started
  dsimp only
  rcases muxHTTP_cases begun questioned with ⟨same, -⟩ | ⟨target, -, allocated⟩
  · rw [same]
    exact asks
  · rw [allocated]
    exact ⟨asks.serviceCache, asks.nexts, asks.sticky, asks.balanced, asks.kept, asks.fresh,
      asks.single⟩

theorem Balanced.message (balanced : proxy.Balanced) (found : proxy.streams[index]? = some stream)
    {result : Stream × Sessions} {selected asked : List (String × Option String)}
    {added : List ((String × String) × Option String)} (messaged : Messaged proxy stream result)
    (asks : Asks proxy stream result selected asked added) :
    Balanced { result.2 with streams := proxy.streams.set index result.1 } where
  counted := by
    dsimp only
    have traded := flatMap_set_append found asks.serviceCache
    rw [asks.nexts, asks.sticky, messaged.deselects, messaged.script]
    refine List.perm_iff_count.mpr fun entry => ?_
    have before := List.perm_iff_count.mp balanced.counted entry
    have during := List.perm_iff_count.mp asks.balanced entry
    have after := List.perm_iff_count.mp
      (traded.filter fun entry => !isSticky proxy.script entry.1) entry
    simp only [List.filter_append, List.count_append, stuck, List.map_append] at before during after ⊢
    omega
  kept := by
    dsimp only
    rw [asks.sticky, messaged.script]
    intro entry member
    rcases List.mem_append.mp member with old | new
    · exact balanced.kept entry old
    · exact asks.kept entry new
  once := by
    dsimp only
    rw [asks.sticky, List.map_append]
    refine List.nodup_append.mpr ⟨balanced.once, ?_, ?_⟩
    · exact asks.single
    · rintro key old _ new rfl
      obtain ⟨entry, member, rfl⟩ := List.mem_map.mp new
      exact asks.fresh entry member old

theorem Balanced.finish (balanced : proxy.Balanced) (found : proxy.streams[index]? = some stream) :
    Balanced { (streamEnd stream proxy).2 with
      streams := proxy.streams.set index (streamEnd stream proxy).1 } where
  counted := by
    have traded : (stream.serviceCache ++ (proxy.streams.set index
        (streamEnd stream proxy).1).flatMap Stream.serviceCache).Perm
          (proxy.streams.flatMap Stream.serviceCache) := flatMap_set_nil found rfl
    have moved := traded.append_left proxy.deselects
    rw [← List.append_assoc] at moved
    exact balanced.counted.trans ((moved.symm.filter _).append_right _)
  kept := balanced.kept
  once := balanced.once

/-- Every message has the address of its client. -/
def Addressed (_ : Sessions) : StreamEvent → Prop
  | .message _ _ sourceIP _ => sourceIP ≠ ""
  | _ => True

instance (proxy : Sessions) (event : StreamEvent) : Decidable (Addressed proxy event) :=
  match event with
  | .start | .finish _ => inferInstanceAs (Decidable True)
  | .message _ _ sourceIP _ => inferInstanceAs (Decidable (sourceIP ≠ ""))

include stepped in
theorem Balanced.step (balanced : proxy.Balanced) (addressed : Addressed proxy event) :
    next.Balanced := by
  rcases step_cases stepped with ⟨-, rfl⟩ | ⟨index, stream, _, _, _, rfl, found, rfl⟩ |
    ⟨index, stream, -, found, rfl⟩
  · exact ⟨by simpa using balanced.counted, balanced.kept, balanced.once⟩
  · obtain ⟨selected, asked, added, asks⟩ := message_asks addressed
    exact balanced.message found (messaged ..) asks
  · exact balanced.finish found

theorem balanced_new (script : Script) : (new script).Balanced :=
  ⟨.refl _, List.forall_mem_nil _, List.nodup_nil⟩

theorem balanced_run (addressed : machine.Guarded Addressed (new script) steps)
    (reached : machine.run (new script) steps = some proxy) : proxy.Balanced :=
  Machine.run_invariant _ (fun _ _ _ held addressed stepped => held.step stepped addressed)
    (balanced_new script) addressed reached

theorem Balanced.count_plain (balanced : proxy.Balanced)
    (plain : isSticky proxy.script route = false) (target : Option String) :
    proxy.nexts.count (route, target) = proxy.deselects.count (route, target) +
      (proxy.streams.flatMap Stream.serviceCache).count (route, target) := by
  have absent : (route, target) ∉ stuck proxy.sticky := by
    intro member
    obtain ⟨entry, listed, same⟩ := List.mem_map.mp member
    have sticky := balanced.kept entry listed
    rw [congrArg Prod.fst same, plain] at sticky
    cases sticky
  rw [List.perm_iff_count.mp balanced.counted, List.count_append,
    List.count_eq_zero_of_not_mem absent, List.count_filter (by simpa using plain),
    List.count_append, Nat.add_zero]

theorem Balanced.count_sticky (balanced : proxy.Balanced)
    (sticky : isSticky proxy.script route = true) (target : Option String) :
    proxy.nexts.count (route, target) =
      proxy.sticky.countP (fun entry => entry.1.1 = route ∧ entry.2 = target) := by
  have absent : (route, target) ∉ (proxy.deselects ++
      proxy.streams.flatMap Stream.serviceCache).filter
        fun entry => !isSticky proxy.script entry.1 := by
    intro member
    have plain := (List.mem_filter.mp member).2
    simp [sticky] at plain
  rw [List.perm_iff_count.mp balanced.counted, List.count_append,
    List.count_eq_zero_of_not_mem absent, Nat.zero_add, stuck, List.count, List.countP_map]
  congr 1
  funext entry
  exact Bool.eq_iff_iff.mpr (by simp)

/-- The balancer of a service that is not sticky has selected a target as often as it has deselected
it, but for the streams that still use it. The balancer of a sticky service has selected a target
once for each source address, however many streams deselect it. -/
theorem run_balanced (addressed : machine.Guarded Addressed (new script) steps)
    (reached : machine.run (new script) steps = some proxy) (route : String)
    (target : Option String) :
    (isSticky proxy.script route = false → proxy.nexts.count (route, target) =
        proxy.deselects.count (route, target) +
          (proxy.streams.flatMap Stream.serviceCache).count (route, target)) ∧
      (isSticky proxy.script route = true → proxy.nexts.count (route, target) =
          proxy.sticky.countP (fun entry => entry.1.1 = route ∧ entry.2 = target)) ∧
      (proxy.sticky.map Prod.fst).Nodup := by
  have balanced := balanced_run addressed reached
  exact ⟨fun plain => balanced.count_plain plain target,
    fun sticky => balanced.count_sticky sticky target, balanced.once⟩

theorem run_balanced_example :
    ∃ proxy, machine.run (new exampleScript) (exampleStream 0 ++ (exampleStream 1).take 2) =
        some proxy ∧
      proxy.nexts.count ("web", some "10.0.0.1:80") =
        proxy.deselects.count ("web", some "10.0.0.1:80") +
          (proxy.streams.flatMap Stream.serviceCache).count ("web", some "10.0.0.1:80") :=
  ⟨_, rfl, (@run_balanced _ exampleScript (exampleStream 0 ++ (exampleStream 1).take 2)
    (by decide +kernel) rfl "web" (some "10.0.0.1:80")).1 (by decide +kernel)⟩

/-- The target was chosen by a balancer of the service. -/
def Chosen (script : Script) (route : String) (target : Option String) : Prop :=
  ∃ service, script.services.lookup route = some service ∧
    ∃ selection : Selection, selection.pick service.targets = target

/-- The routes of the messages that the steps have sent in a stream. -/
def carried (index : Nat) (steps : List StreamEvent) : List String :=
  steps.filterMap fun
    | .message sent _ _ route => if sent = index then some route else none
    | _ => none

/-- A stream that has not started has no variables set. -/
def contextAt (streams : List Stream) (index : Nat) : Context :=
  (streams[index]?.getD {}).context

/-- Messages with these routes set the variables so. -/
def Follows (script : Script) (routes : List String) (context : Context) : Prop :=
  ∃ messages, messages.map Prod.snd = routes ∧ context = script.afterMessages messages

/-- The caches have chosen targets, and the variables of a stream follow what it has carried. -/
structure Simulated (script : Script) (past : List StreamEvent) (proxy : Sessions) : Prop where
  same : proxy.script = script
  sticky : ∀ entry ∈ proxy.sticky, Chosen script entry.1.1 entry.2
  caches : ∀ stream ∈ proxy.streams, ∀ entry ∈ stream.serviceCache, Chosen script entry.1 entry.2
  follows : ∀ index, Follows script (carried index past) (contextAt proxy.streams index)

variable {past : List StreamEvent}

/-- The balancer or a sticky cache has chosen the target. -/
theorem chosen_select (found : script.services.lookup route = some service)
    (sticky : ∀ entry ∈ proxy.sticky, Chosen script entry.1.1 entry.2) :
    Chosen script route (proxy.select selection sourceIP route service).1 ∧
      ∀ entry ∈ (proxy.select selection sourceIP route service).2.sticky,
        Chosen script entry.1.1 entry.2 := by
  have asked : Chosen script route (selection.pick service.targets) :=
    ⟨service, found, selection, rfl⟩
  rw [select]
  split
  · split
    next target remembered => exact ⟨sticky _ (AlgoCache.mem_of_get remembered), sticky⟩
    next => exact ⟨asked, List.forall_mem_append.mpr ⟨sticky, List.forall_mem_singleton.mpr asked⟩⟩
  · exact ⟨asked, sticky⟩

/-- A message that is routed sets the variables as some balancer would. -/
theorem handleMessageStart_chosen (found : script.services.lookup route = some service)
    {target : Option String} (chosen : Chosen script route target) (context : Context) :
    ∃ other : Selection, { script.handleMessageStart selection route context with target } =
      script.handleMessageStart other route context := by
  obtain ⟨same, listed, other, rfl⟩ := chosen
  cases found.symm.trans listed
  refine ⟨other, ?_⟩
  simp only [Script.handleMessageStart, found]

theorem Simulated.messageStart (simulated : Simulated script past proxy)
    (member : stream ∈ proxy.streams) :
    let started := proxy.messageStart selection sourceIP route stream
    (∀ entry ∈ started.2.sticky, Chosen script entry.1.1 entry.2) ∧
      (∀ entry ∈ started.1.serviceCache, Chosen script entry.1 entry.2) ∧
        ∃ other : Selection,
          started.1.context = script.handleMessageStart other route stream.context := by
  intro started
  have chosen := simulated.caches stream member
  simp only [started, Sessions.messageStart, simulated.same]
  split
  next => exact ⟨simulated.sticky, chosen, selection, rfl⟩
  next service found =>
    simp only [serviceTarget]
    split
    next target remembered =>
      refine ⟨simulated.sticky, chosen, ?_⟩
      exact handleMessageStart_chosen found (chosen _ (AlgoCache.mem_of_get remembered)) _
    next =>
      obtain ⟨new, sticky⟩ := @chosen_select proxy selection script sourceIP route service found
        simulated.sticky
      exact ⟨sticky, List.forall_mem_append.mpr ⟨chosen, List.forall_mem_singleton.mpr new⟩,
        handleMessageStart_chosen found new _⟩

theorem Simulated.message (simulated : Simulated script past proxy)
    (member : stream ∈ proxy.streams) :
    let result := message selection sourceIP route stream proxy
    (∀ entry ∈ result.2.sticky, Chosen script entry.1.1 entry.2) ∧
      (∀ entry ∈ result.1.serviceCache, Chosen script entry.1 entry.2) ∧
        ∃ other : Selection,
          result.1.context = script.handleMessageStart other route stream.context := by
  have begun := @Simulated.messageStart proxy stream selection script sourceIP route past simulated
    member
  rw [Sessions.message]
  generalize proxy.messageStart selection sourceIP route stream = started at begun
  obtain ⟨stream', proxy'⟩ := started
  dsimp only
  rcases muxHTTP_cases stream' proxy' with ⟨same, -⟩ | ⟨target, -, allocated⟩
  · rw [same]
    exact begun
  · rw [allocated]
    exact begun

theorem contextAt_start (streams : List Stream) (index : Nat) :
    contextAt (streams ++ [({} : Stream)]) index = contextAt streams index := by
  rw [contextAt, contextAt, List.getElem?_append]
  split
  next => rfl
  next beyond =>
    rw [List.getElem?_eq_none (Nat.le_of_not_lt beyond), List.getElem?_singleton]
    split <;> rfl

theorem contextAt_set {streams : List Stream} {changed : Nat} {before after : Stream}
    (found : streams[changed]? = some before) (index : Nat) :
    contextAt (streams.set changed after) index =
      if changed = index then after.context else contextAt streams index := by
  rw [contextAt, List.getElem?_set, if_pos (List.getElem?_eq_some_iff.mp found).1]
  split <;> rfl

theorem Follows.message {routes : List String} {context : Context}
    (follows : Follows script routes context) (other : Selection) (route : String) :
    Follows script (routes ++ [route]) (script.handleMessageStart other route context) := by
  obtain ⟨messages, rfl, rfl⟩ := follows
  refine ⟨messages ++ [(other, route)], List.map_append, ?_⟩
  rw [Script.afterMessages, Script.afterMessages, List.foldl_append]
  rfl

include stepped in
theorem Simulated.step (simulated : Simulated script past proxy) :
    Simulated script (past ++ [event]) next := by
  have caches : ∀ stream ∈ next.streams, ∀ entry ∈ stream.serviceCache,
      Chosen script entry.1 entry.2 := by
    refine forall_step stepped simulated.caches (List.forall_mem_nil _) ?_ ?_
    · intro stream member selection sourceIP route
      exact (simulated.message member).2.1
    · intro stream _
      exact List.forall_mem_nil _
  rcases step_cases stepped with ⟨rfl, rfl⟩ | ⟨sent, stream, _, _, route, rfl, found, rfl⟩ |
    ⟨ended, stream, rfl, found, rfl⟩
  · refine ⟨simulated.same, simulated.sticky, caches, fun index => ?_⟩
    rw [contextAt_start]
    simpa [carried] using simulated.follows index
  · obtain ⟨sticky, -, other, context⟩ := simulated.message (List.mem_of_getElem? found)
    refine ⟨(messaged ..).script.trans simulated.same, sticky, caches, fun index => ?_⟩
    rw [contextAt_set found, context]
    split
    next same =>
      subst same
      simpa [carried, contextAt, found] using (simulated.follows sent).message other route
    next different => simpa [carried, different] using simulated.follows index
  · refine ⟨simulated.same, simulated.sticky, caches, fun index => ?_⟩
    rw [contextAt_set found]
    split
    next same =>
      subst same
      simpa [carried, contextAt, found, streamEnd] using simulated.follows ended
    next => simpa [carried] using simulated.follows index

theorem simulated_run (reached : machine.run (new script) steps = some proxy) :
    Simulated script steps proxy := by
  have start : Simulated script [] (new script) :=
    ⟨rfl, List.forall_mem_nil _, List.forall_mem_nil _, fun _ => ⟨[], rfl, rfl⟩⟩
  exact machine.run_history (fun _ _ _ _ held stepped => held.step stepped) start reached

/-- With their caches the streams do what they may do when each of the messages that they have
carried picks its target anew. -/
theorem run_simulated (reached : machine.run (new script) steps = some proxy) :
    proxy.script = script ∧ ∀ index stream, proxy.streams[index]? = some stream →
      ∃ messages, messages.map Prod.snd = carried index steps ∧
        stream.context = script.afterMessages messages := by
  have simulated := simulated_run reached
  refine ⟨simulated.same, fun index stream found => ?_⟩
  have follows := simulated.follows index
  rwa [contextAt, found] at follows

theorem run_simulated_example :
    ∃ proxy stream,
      machine.run (new exampleScript) (exampleStream 0 ++ (exampleStream 1).take 2) = some proxy ∧
      proxy.streams[1]? = some stream ∧
      ∃ messages, messages.map Prod.snd = ["web"] ∧
        stream.context = exampleScript.afterMessages messages :=
  ⟨_, _, rfl, rfl, (@run_simulated _ exampleScript
    (exampleStream 0 ++ (exampleStream 1).take 2) rfl).2 1 _ rfl⟩

/-- Two streams of one client use a sticky service one after the other. -/
def stickyRun (route : String) : List StreamEvent :=
  [.start, .message 0 .head "10.0.0.9" route, .finish 0,
    .start, .message 1 .head "10.0.0.9" route, .finish 1]

theorem run_stickyRun (found : script.services.lookup route = some service)
    (cached : service.cache = true) :
    ∃ final, machine.run (new script) (stickyRun route) = some final ∧
      final.nexts = [(route, service.targets.head?)] ∧
      final.deselects = [(route, service.targets.head?), (route, service.targets.head?)] := by
  cases targets : service.targets with
  | nil =>
      simp [stickyRun, Machine.run, machine, change, new, message, messageStart, found,
        serviceTarget, AlgoCache.get, select, cached, Sessions.next, Selection.head, targets,
        muxHTTP, streamEnd, Script.handleMessageStart]
  | cons target rest =>
      simp [stickyRun, Machine.run, machine, change, new, message, messageStart, found,
        serviceTarget, AlgoCache.get, select, cached, Sessions.next, Selection.head, targets,
        muxHTTP, streamEnd, Script.handleMessageStart, ResourcePool.allocate, ResourcePool.new,
        ResourcePool.free]

theorem addressed_stickyRun (proxy : Sessions) :
    machine.Guarded Addressed proxy (stickyRun route) := by
  have sent : ("10.0.0.9" : String) ≠ "" := by decide
  exact ⟨trivial, fun _ _ => ⟨sent, fun _ _ => ⟨trivial, fun _ _ => ⟨trivial, fun _ _ =>
    ⟨sent, fun _ _ => ⟨trivial, fun _ _ => trivial⟩⟩⟩⟩⟩⟩

/-- The balancer of a service never deselects a target more often than it has selected it, exactly
if the service is not sticky. -/
theorem run_deselects_iff (found : script.services.lookup route = some service) :
    (∀ steps final, machine.Guarded Addressed (new script) steps →
      machine.run (new script) steps = some final → ∀ target,
        final.deselects.count (route, target) ≤ final.nexts.count (route, target)) ↔
      service.cache = false := by
  constructor
  · intro bounded
    by_contra cached
    obtain ⟨final, reached, nexts, deselects⟩ := run_stickyRun found (Bool.not_eq_false _ ▸ cached)
    have twice := bounded _ _ (addressed_stickyRun _) reached service.targets.head?
    rw [nexts, deselects] at twice
    simp at twice
  · intro plain steps final addressed reached target
    have same : isSticky final.script route = false := by
      rw [(simulated_run reached).same, isSticky, found]
      exact plain
    have counted := (balanced_run addressed reached).count_plain same target
    omega

theorem run_deselects_example :
    exampleScript.services.lookup "web" = some (serviceEntry Script.exampleWeb) ∧
      ∀ steps final, machine.Guarded Addressed (new exampleScript) steps →
        machine.run (new exampleScript) steps = some final → ∀ target,
          final.deselects.count ("web", target) ≤ final.nexts.count ("web", target) :=
  ⟨rfl, (@run_deselects_iff exampleScript "web" (serviceEntry Script.exampleWeb) rfl).mpr rfl⟩

end Sessions
end ErieCanal.Proxy
