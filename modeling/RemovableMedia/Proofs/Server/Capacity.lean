import RemovableMedia.Proofs.Server.Departure
import RemovableMedia.Proofs.Server.Effect
import RemovableMedia.Proofs.Tree.Seed

/-!
# Answers that do not fit

An answer is put on its receiver's queue at once, line after line, while nothing is taken from the
queue.  So a client whose queue is empty gets all that a command of its own leads to, or is
disconnected because that is more than a queue holds (`sender_stays_iff_fits`).  Only a listing of
devices can be that long.
-/

set_option autoImplicit false

namespace RemovableMedia.Server

open RemovableMedia.Device (Record)
open RemovableMedia.Mount (Host Orchestrator Rehearsal)

/-! ## Queues -/

/-- A queue whose writer is there takes just as many lines as there is room for. -/
theorem Client.takeAll_eq_ite {client : Client} (hwriter : client.hasWriter = true)
    (hroom : client.queue.length ≤ queueLimit) (lines : List String) :
    client.takeAll lines =
      if client.queue.length + lines.length ≤ queueLimit then some (client.told lines)
      else none := by
  induction lines generalizing client with
  | nil => simp [takeAll, hroom]
  | cons line rest ih =>
    rw [takeAll]
    by_cases hfull : queueLimit ≤ client.queue.length
    · have hlong : ¬ client.queue.length + (line :: rest).length ≤ queueLimit := by
        rw [List.length_cons]
        omega
      rw [if_pos (refuses_iff.2 (.inr hfull)), if_neg hlong]
    · have htakes : ¬ client.refuses line = true := by
        rw [refuses_iff, hwriter]
        simpa using hfull
      have hlength : (client.told [line]).queue.length = client.queue.length + 1 := by
        simp [told]
      have hrest := @ih (client.told [line]) hwriter (by omega)
      rw [if_neg htakes, hrest, told_told, hlength, List.length_cons, Nat.add_assoc,
        Nat.add_comm 1, List.singleton_append]

/-! ## Lines that a command leads to -/

/-- The devices that a command lists, if it lists devices. -/
def listedDevices? (tree : Tree) : Command → Option (List Node)
  | .listAllRemovableDevices => some tree.nodes
  | .listRemovableDevice path => listed? tree path
  | _ => none

variable {σ : Type}

/-- A command that lists devices is answered with their descriptions and changes nothing. -/
theorem execute_of_listedDevices? (orchestrator : Orchestrator σ) (config : Config)
    {command : Command} {host : Host σ} {nodes : List Node}
    (h : listedDevices? host.tree command = some nodes) :
    execute orchestrator config command host = (.listing command (describe nodes), host) := by
  cases command with
  | listAllRemovableDevices =>
    cases h
    rfl
  | listRemovableDevice path =>
    have hlisted : listed? host.tree path = some nodes := h
    simp only [execute, hlisted]
  | mount | unmount | listSupportedFilesystems | listSupportedFilesystemOptions | poweroff =>
    cases h

/-- Whatever does not list devices leads to few lines. -/
theorem length_le_of_listedDevices?_eq_none (orchestrator : Orchestrator σ) (config : Config)
    {command : Command} {host : Host σ} (h : listedDevices? host.tree command = none) :
    let outcome := (execute orchestrator config command host).1
    outcome.events.length + outcome.replies.length ≤ 3 := by
  intro outcome
  cases command with
  | listAllRemovableDevices => cases h
  | listRemovableDevice path =>
    have hlisted : listed? host.tree path = none := h
    simp [outcome, execute, hlisted, Outcome.refusal]
  | listSupportedFilesystems => simp [outcome, execute, Outcome.listing]
  | listSupportedFilesystemOptions name =>
    cases hname : config.filesystems.get? name <;>
      simp [outcome, execute, hname, Outcome.listing, Outcome.refusal]
  | mount path options =>
    cases hresult : (host.mount orchestrator config path options).1 <;>
      simp [outcome, execute, hresult, Outcome.ofChange, Outcome.refusal]
  | unmount path =>
    cases hresult : (host.unmount orchestrator config path).1 <;>
      simp [outcome, execute, hresult, Outcome.ofChange, Outcome.refusal]
  | poweroff path =>
    cases hresult : (host.poweroff orchestrator path).1 <;>
      simp [outcome, execute, hresult, Outcome.ofAttempt, Outcome.refusal]

/-- Everything that the sender of a command is told: what happened, and then the answer. -/
def Outcome.lines (outcome : Outcome) : List String :=
  wires (outcome.events.map .notification ++ outcome.replies)

/-- There is a line for each event and for each reply. -/
theorem Outcome.length_lines (outcome : Outcome) :
    outcome.lines.length = outcome.events.length + outcome.replies.length := by
  simp [lines, wires]

/-- More lines than a queue holds come from a listing of more than 1022 devices only. -/
theorem queueLimit_lt_length_lines_iff (orchestrator : Orchestrator σ) (config : Config)
    (command : Command) (host : Host σ) :
    queueLimit < (execute orchestrator config command host).1.lines.length ↔
      ∃ nodes, listedDevices? host.tree command = some nodes ∧ 1022 < nodes.length := by
  rw [Outcome.length_lines]
  cases hlisted : listedDevices? host.tree command with
  | none =>
    have hshort := length_le_of_listedDevices?_eq_none orchestrator config hlisted
    have hlimit : 3 ≤ queueLimit := by decide
    simpa using Nat.le_trans hshort hlimit
  | some nodes =>
    rw [execute_of_listedDevices? orchestrator config hlisted]
    simp only [Outcome.listing, describe, queueLimit, List.length_nil, List.length_cons,
      List.length_append, List.length_map, Option.some.injEq, exists_eq_left']
    omega

/-! ## The sender of a command -/

variable {orchestrator : Orchestrator σ} {config : Config} {loop : Loop σ} {id : ClientId}
  {client : Client} {bytes : List UInt8} {frame : String} {buffer : FrameBuffer}
  {outcome : Outcome} {host : Host σ}

/-- The sender of one command is offered all that the command leads to. -/
theorem Loop.find?_receive_of_dispatch (h : loop.clients.Numbered)
    (hclient : loop.clients.find? id = some client)
    (hbytes : client.frames.feed bytes = (⟨[frame], none⟩, buffer))
    (hdispatch : dispatch orchestrator config frame loop.host = (.ok outcome, host)) :
    (loop.receive orchestrator config id bytes).clients.find? id =
      { client with frames := buffer }.takeAll outcome.lines := by
  -- the bytes change nothing but what the client's buffer has, so its queue is as it was
  let fed := loop.clients.feed id bytes
  let next : Loop σ := { loop with clients := fed.2 }
  have hfed : fed.1 = ⟨[frame], none⟩ := by
    rw [Registry.feed_fst hclient, hbytes]
  have hfind : next.clients.find? id = some { client with frames := buffer } := by
    rw [Registry.find?_feed, hclient, Option.map_some, if_pos rfl, hbytes]
  have hnumbered : next.clients.Numbered := h.shrink (loop.clients.shrinks_feed id bytes)
  have hcontains : next.clients.contains id = true := by
    rw [Registry.contains, hfind]
    rfl
  have hlines : (Deed.answered id frame outcome).messagesTo id =
      outcome.events.map .notification ++ outcome.replies := by
    simp [Deed.messagesTo, Deed.events, Deed.answersTo]
  have hanswered := find?_answered hnumbered id frame outcome host id
  rw [hlines, hfind] at hanswered
  have hreceive : loop.receive orchestrator config id bytes =
      next.serve orchestrator config id fed.1.error fed.1.frames := rfl
  have hserve : next.serve orchestrator config id none [frame] =
      ({ next with host }.broadcast outcome.events).reply id outcome.replies := by
    rw [serve, if_pos hcontains]
    simp only [next, hdispatch, serve, Option.isSome_none, Bool.false_eq_true, if_false]
  rw [hreceive, hfed, hserve]
  exact hanswered

/-- A client with an empty queue and a writer sends a command.  If all that this leads to fits the
queue then the client stays connected with all of it on its queue, in the order in which it is told,
and otherwise it is disconnected.  It does not fit just if the command lists more than 1022
devices. -/
theorem sender_stays_iff_fits (h : loop.clients.Numbered)
    (hclient : loop.clients.find? id = some client) (hqueue : client.queue = [])
    (hwriter : client.hasWriter = true)
    (hbytes : client.frames.feed bytes = (⟨[frame], none⟩, buffer))
    (hdispatch : dispatch orchestrator config frame loop.host = (.ok outcome, host)) :
    let lines := wires (outcome.events.map .notification ++ outcome.replies)
    let after := loop.receive orchestrator config id bytes
    (lines.length ≤ queueLimit →
      after.clients.find? id = some { client with frames := buffer, queue := lines }) ∧
    (queueLimit < lines.length → after.clients.find? id = none) ∧
    ∃ command, recognize config frame = .ok command ∧
      (queueLimit < lines.length ↔
        ∃ nodes, listedDevices? loop.host.tree command = some nodes ∧ 1022 < nodes.length) := by
  intro lines after
  let fed : Client := { client with frames := buffer }
  have hempty : fed.queue.length = 0 := by
    rw [hqueue]
    rfl
  have hafter : after.clients.find? id =
      if lines.length ≤ queueLimit then some { client with frames := buffer, queue := lines }
      else none := by
    have hroom : fed.queue.length ≤ queueLimit := hempty ▸ Nat.zero_le queueLimit
    have hwriter : fed.hasWriter = true := hwriter
    have htake := Client.takeAll_eq_ite hwriter hroom lines
    rw [hempty, Nat.zero_add] at htake
    refine (Loop.find?_receive_of_dispatch h hclient hbytes hdispatch).trans (htake.trans ?_)
    simp [fed, Client.told, hqueue]
  refine ⟨fun hfits => ?_, fun hlong => ?_, ?_⟩
  · rw [hafter, if_pos hfits]
  · rw [hafter, if_neg (Nat.not_le.2 hlong)]
  · unfold dispatch at hdispatch
    cases hcommand : recognize config frame with
    | error e => simp [hcommand] at hdispatch
    | ok command =>
      rw [hcommand] at hdispatch
      obtain ⟨houtcome, -⟩ := Prod.mk.inj hdispatch
      obtain rfl := Except.ok.inj houtcome
      exact ⟨command, rfl, queueLimit_lt_length_lines_iff orchestrator config command loop.host⟩

/-- The bytes of the command that lists all devices are one frame. -/
theorem feed_listAll :
    FrameBuffer.empty.feed (Text.Utf8.encode "list_all_removable_devices()\n") =
      (⟨["list_all_removable_devices()"], none⟩, .empty) := by
  decide +kernel

/-- The frame that lists all devices is answered with all of them. -/
theorem dispatch_listAll (orchestrator : Orchestrator σ) (host : Host σ) :
    dispatch orchestrator .standard "list_all_removable_devices()" host =
      (.ok (.listing .listAllRemovableDevices (describe host.tree.nodes)), host) := by
  have hcommand : recognize .standard "list_all_removable_devices()" =
      .ok .listAllRemovableDevices := by
    decide +kernel
  rw [dispatch, hcommand]
  rfl

/-- A client asks for the devices when a stick with its partition is plugged in. -/
theorem sender_stays_iff_fits_of_stick :
    let loop : Loop Rehearsal := ⟨⟨.plugged, .empty, .start true⟩, (Registry.empty.enroll 8).2⟩
    let bytes := Text.Utf8.encode "list_all_removable_devices()\n"
    let after := loop.receive Rehearsal.orchestrator .standard 0 bytes
    loop.clients.Numbered ∧ loop.clients.find? 0 = some (.accepted 0 8) ∧
      FrameBuffer.empty.feed bytes = (⟨["list_all_removable_devices()"], none⟩, .empty) ∧
      after.clients.find? 0 = some { Client.accepted 0 8 with
        queue := ["started(\"list_all_removable_devices\")\n",
          "removable_device(\"/\", \"/dev/sdb\", \"device\", \"removable_disk\")\n",
          "removable_device(\"/dev/sdb\", \"/dev/sdb1\", \"partition\", \"vfat\", nil, nil, nil)\n",
          "finished(\"list_all_removable_devices\")\n"] } := by
  intro loop bytes after
  have hnumbered : loop.clients.Numbered := Registry.numbered_empty.enroll 8
  have hclient : loop.clients.find? 0 = some (.accepted 0 8) := rfl
  obtain ⟨hstays, -⟩ := sender_stays_iff_fits hnumbered hclient rfl rfl feed_listAll
    (dispatch_listAll Rehearsal.orchestrator loop.host)
  refine ⟨hnumbered, hclient, feed_listAll, (hstays (by decide +kernel)).trans ?_⟩
  decide +kernel

/-! ## A listing that is too long -/

/-- One of any number of disks. -/
def numberedDisk (number : Nat) : Record :=
  ⟨"/dev/sd" ++ String.ofList (List.replicate (number + 1) 'a'), .stateless .removableDisk, none⟩

/-- A number of disks. -/
def numberedDisks (count : Nat) : List Record :=
  (List.range count).map numberedDisk

/-- Each of the numbered disks is a record that is built. -/
theorem numberedDisk_built (number : Nat) : (numberedDisk number).Built := by
  have hpath : Device.isDevicePath (numberedDisk number).path = true := by
    simp [Device.isDevicePath, numberedDisk, Device.rootPath, ← String.toList_inj]
  have hmake : Record.stateless? (numberedDisk number).path .removableDisk =
      .ok (numberedDisk number) := by
    rw [Record.stateless?, Record.make?, if_pos hpath]
    rfl
  exact .make hmake

/-- No two numbered disks have the same path. -/
theorem nodup_path_numberedDisks (count : Nat) :
    ((numberedDisks count).map Record.path).Nodup := by
  have hinjective : Function.Injective (Record.path ∘ numberedDisk) := by
    intro first second hsame
    have hlength := congrArg (fun path => path.toList.length) hsame
    simpa [numberedDisk] using hlength
  rw [numberedDisks, List.map_map]
  exact List.nodup_range.map hinjective

/-- The tree of a number of disks. -/
def crowded (count : Nat) : Tree :=
  Tree.empty.seed (numberedDisks count)

/-- As many disks are in the tree as were plugged in. -/
theorem length_nodes_crowded (count : Nat) : (crowded count).nodes.length = count := by
  have hroots : ∀ record ∈ numberedDisks count, record.isRoot = true := by
    intro record hmem
    obtain ⟨number, -, rfl⟩ := List.mem_map.1 hmem
    rfl
  have hpaths : ((numberedDisks count ++ []).map Record.path).Nodup := by
    rw [List.append_nil]
    exact nodup_path_numberedDisks count
  have hseed := Tree.seed_eq_planted hroots (by simp) hpaths
  rw [List.append_nil] at hseed
  rw [crowded, hseed, Tree.nodes_planted_nil, List.length_map, numberedDisks, List.length_map,
    List.length_range]

/-- The loop of a daemon that has found a number of disks, with one client. -/
def crowdedLoop (count : Nat) : Loop Rehearsal :=
  ⟨⟨crowded count, .empty, .start true⟩, (Registry.empty.enroll 8).2⟩

/-- The tree of the disks comes from operations on the empty one. -/
theorem reachable_crowdedLoop (count : Nat) : (crowdedLoop count).host.tree.Reachable := by
  refine Tree.Reachable.empty.seed fun record hmem => ?_
  obtain ⟨number, -, rfl⟩ := List.mem_map.1 hmem
  exact numberedDisk_built number

/-- The client of the loop is the one with the first number. -/
theorem find?_crowdedLoop (count : Nat) :
    (crowdedLoop count).clients.find? 0 = some (.accepted 0 8) := rfl

/-- The client's frame is answered with all the disks. -/
theorem dispatch_crowded (count : Nat) :
    dispatch Rehearsal.orchestrator .standard "list_all_removable_devices()"
        (crowdedLoop count).host =
      (.ok (.listing .listAllRemovableDevices (describe (crowded count).nodes)),
        (crowdedLoop count).host) :=
  dispatch_listAll Rehearsal.orchestrator (crowdedLoop count).host

/-- With more than 1022 disks, the client that asks for all of them is disconnected. -/
theorem receive_crowded {count : Nat} (h : 1022 < count) :
    let bytes := Text.Utf8.encode "list_all_removable_devices()\n"
    ((crowdedLoop count).receive Rehearsal.orchestrator .standard 0 bytes).clients.find? 0 =
      none := by
  intro bytes
  let outcome := Outcome.listing .listAllRemovableDevices (describe (crowded count).nodes)
  let client := Client.accepted 0 8
  -- a line for each disk, and one at either end
  have hlength : outcome.lines.length = count + 2 := by
    simp [Outcome.length_lines, outcome, Outcome.listing, describe, length_nodes_crowded]
  have hlong : ¬ client.queue.length + outcome.lines.length ≤ queueLimit := by
    have hempty : client.queue.length = 0 := rfl
    rw [hlength, hempty, queueLimit]
    omega
  have hwriter : client.hasWriter = true := rfl
  have htake := Client.takeAll_eq_ite hwriter (Nat.zero_le queueLimit) outcome.lines
  rw [if_neg hlong] at htake
  rw [Loop.find?_receive_of_dispatch (Registry.numbered_empty.enroll 8) (find?_crowdedLoop count)
    feed_listAll (dispatch_crowded count)]
  exact htake

/-- A client with an empty queue and a writer asks for the devices when 1023 disks are there, and is
disconnected. -/
theorem long_listing_disconnects :
    let loop := crowdedLoop 1023
    let bytes := Text.Utf8.encode "list_all_removable_devices()\n"
    let outcome := Outcome.listing .listAllRemovableDevices (describe (crowded 1023).nodes)
    loop.host.tree.Reachable ∧ loop.clients.find? 0 = some (.accepted 0 8) ∧
      (Client.accepted 0 8).queue = [] ∧ (Client.accepted 0 8).hasWriter = true ∧
      FrameBuffer.empty.feed bytes = (⟨["list_all_removable_devices()"], none⟩, .empty) ∧
      dispatch Rehearsal.orchestrator .standard "list_all_removable_devices()" loop.host =
        (.ok outcome, loop.host) ∧
      (loop.receive Rehearsal.orchestrator .standard 0 bytes).clients.find? 0 = none := by
  intro loop bytes outcome
  have hcount : 1022 < 1023 := by decide
  exact ⟨reachable_crowdedLoop 1023, find?_crowdedLoop 1023, rfl, rfl, feed_listAll,
    dispatch_crowded 1023, receive_crowded hcount⟩

end RemovableMedia.Server
