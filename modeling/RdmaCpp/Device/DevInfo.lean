import RdmaCpp.Lib.Monitor
import RdmaCpp.Lib.Traced
import RdmaCpp.Verbs

/-!
# Listing the devices

`hrd_ibv_devinfo` of `c/device.c` opens one device after another, asks for its attributes,
prints them and closes it. A failing call ends the process where it is.

What that leaves is settled for every list of devices and all outcomes
(`Device.post_hrdIbvDevinfo_leaves`): the devices of the list are opened in its order, each of
them is asked for its attributes, printed with them and closed before the next one is opened,
and so there is never a second one open (`Device.openMonitor`); the devices before the one that
fails have all been printed; the list of devices is freed only at the very end, and a device
whose attributes cannot be had is left open. The status does not tell a failure from a success:
it is `0` also where a device cannot be opened, or there is no list.
-/

namespace Device

/-- A device, with what is printed of it: `struct ibv_device` and its GUID. -/
structure IbvDevice where
  ptr : ℕ
  name : String
  devName : String
  guid : UInt64
  nodeType : ℤ
  transportType : ℤ

/-- The attributes that are printed, of `struct ibv_device_attr`. -/
structure IbvDeviceAttr where
  fwVer : String
  maxQp : ℤ
  maxCq : ℤ
  maxMr : ℤ
  maxPd : ℤ
  maxAh : ℤ
  physPortCnt : UInt8

/-- What the function does. -/
inductive Act
  | ibvGetDeviceList (numDevices : Option ℕ)
  | ibvOpenDevice (dev : ℕ) (ctx : Ptr)
  | ibvQueryDevice (ctx : ℕ) (ret : ℤ)
  /-- The lines about a device, and its number. -/
  | print (devI : ℕ) (dev : IbvDevice) (attr : IbvDeviceAttr)
  | ibvCloseDevice (ctx : ℕ)
  | ibvFreeDeviceList

/-- What the calls bring back. -/
structure Outcomes where
  ibvGetDeviceList : Option (List IbvDevice)
  ibvOpenDevice : ℕ → Ptr
  ibvQueryDevice : ℕ → ℤ × IbvDeviceAttr

/-- What ends the process. -/
inductive Stopped
  | exit (status : ℤ)
  /-- An access outside of the list. -/
  | outOfBounds
  deriving DecidableEq

/-- The function has no state but its variables. -/
abbrev DevM : Type → Type := Traced Unit Act Stopped

/-- One turn of the loop. -/
def devInfo (o : Outcomes) (devList : List IbvDevice) (devI : ℕ) : DevM (Option Unit) :=
  match devList[devI]? with
  | none => Traced.stop .outOfBounds
  | some dev => do
    Traced.emit (.ibvOpenDevice dev.ptr (o.ibvOpenDevice devI))
    match o.ibvOpenDevice devI with
    | none => Traced.stop (.exit 0)
    | some ctx => do
      Traced.emit (.ibvQueryDevice ctx (o.ibvQueryDevice devI).1)
      if (o.ibvQueryDevice devI).1 ≠ 0 then Traced.stop (.exit (-1))
      else do
        Traced.emit (.print devI dev (o.ibvQueryDevice devI).2)
        Traced.emit (.ibvCloseDevice ctx)
        return none

/-- `hrd_ibv_devinfo`. -/
def hrdIbvDevinfo (o : Outcomes) : DevM Unit := do
  Traced.emit (.ibvGetDeviceList (o.ibvGetDeviceList.map List.length))
  match o.ibvGetDeviceList with
  | none => Traced.stop (.exit 0)
  | some devList => do
    let _ ← Traced.forLoop (devInfo o devList) 0 devList.length
    Traced.emit .ibvFreeDeviceList

/-! ### What is watched -/

/-- How far the listing has got. -/
inductive Watch
  /-- The first `k` devices have been closed, and none is open. -/
  | idle (k : ℕ)
  /-- The device `k` is open, … -/
  | opened (k ctx : ℕ)
  /-- … its attributes have been had, … -/
  | queried (k ctx : ℕ)
  /-- … and have been printed. -/
  | printed (k ctx : ℕ)

/-- **Watching the listing.** The devices are opened in the order of the list, when none is
open; the one that is open is asked for its attributes, is printed with them when they could be
had, and is closed then; the list is freed behind the last of them. -/
def openMonitor (o : Outcomes) (devList : List IbvDevice) : Monitor Watch Act where
  step
    | .idle k, .ibvOpenDevice _ (some ctx) => .opened k ctx
    | .opened k ctx, .ibvQueryDevice _ ret => if ret = 0 then .queried k ctx else .opened k ctx
    | .queried k ctx, .print _ _ _ => .printed k ctx
    | .printed k _, .ibvCloseDevice _ => .idle (k + 1)
    | u, _ => u
  Ok
    | .idle k, .ibvGetDeviceList numDevices => k = 0 ∧ numDevices = some devList.length
    | .idle k, .ibvOpenDevice dev ctx =>
      devList[k]?.map IbvDevice.ptr = some dev ∧ ctx = o.ibvOpenDevice k
    | .opened k ctx, .ibvQueryDevice ctx' ret => ctx' = ctx ∧ ret = (o.ibvQueryDevice k).1
    | .queried k _, .print devI dev attr =>
      devI = k ∧ devList[k]? = some dev ∧ attr = (o.ibvQueryDevice k).2
    | .printed _ ctx, .ibvCloseDevice ctx' => ctx' = ctx
    | .idle k, .ibvFreeDeviceList => k = devList.length
    | _, _ => False

/-- What is printed. -/
def Act.printed : Act → Option (ℕ × IbvDevice × IbvDeviceAttr)
  | .print devI dev attr => some (devI, dev, attr)
  | _ => none

/-- The action frees the list. -/
def Act.frees : Act → Bool
  | .ibvFreeDeviceList => true
  | _ => false

/-- The lines about the first `k` devices. -/
def lines (o : Outcomes) (devList : List IbvDevice) (k : ℕ) :
    List (ℕ × IbvDevice × IbvDeviceAttr) :=
  (devList.take k).mapIdx fun i dev => (i, dev, (o.ibvQueryDevice i).2)

/-- The device can be opened, and its attributes can be had. -/
def Listable (o : Outcomes) (i : ℕ) : Prop := o.ibvOpenDevice i ≠ none ∧ (o.ibvQueryDevice i).1 = 0

/-- **What has been done** after the first `k` devices. -/
structure Done (o : Outcomes) (devList : List IbvDevice) (k : ℕ) (u : Watch) (t : List Act) :
    Prop where
  le : k ≤ devList.length
  listable : ∀ i < k, Listable o i
  leads : (openMonitor o devList).Leads (.idle 0) t u
  printed : t.filterMap Act.printed = lines o devList k

variable {o : Outcomes} {devList : List IbvDevice} {k : ℕ} {t : List Act}

theorem lines_succ {dev : IbvDevice} (h : devList[k]? = some dev) :
    lines o devList (k + 1) = lines o devList k ++ [(k, dev, (o.ibvQueryDevice k).2)] := by
  have hlt : k < devList.length := (List.getElem?_eq_some_iff.mp h).1
  rw [lines, List.take_add_one, h, Option.toList_some, List.mapIdx_append,
    List.length_take_of_le hlt.le, List.mapIdx_cons, List.mapIdx_nil, Nat.zero_add]
  rfl

/-! ### The loop -/

/-- The open device, asked for its attributes. -/
theorem leads_opened {ctx : ℕ} (hk : k < devList.length) (hopen : o.ibvOpenDevice k = some ctx) :
    (openMonitor o devList).Leads (.idle k)
      [.ibvOpenDevice devList[k].ptr (some ctx), .ibvQueryDevice ctx (o.ibvQueryDevice k).1]
      (if (o.ibvQueryDevice k).1 = 0 then .queried k ctx else .opened k ctx) := by
  refine Monitor.Leads.cons ⟨?_, hopen.symm⟩ (Monitor.Leads.cons ⟨rfl, rfl⟩ ⟨trivial, rfl⟩)
  rw [List.getElem?_eq_getElem hk]
  rfl

/-- **One device**: the next one is done, or the process ends there. -/
theorem post_devInfo (hdone : Done o devList k (.idle k) t) (hk : k < devList.length) :
    Traced.Post (devInfo o devList k) ()
      (fun r _ t' => r = none ∧ Done o devList (k + 1) (.idle (k + 1)) (t ++ t') ∧
        t'.all (fun a => !a.frees) = true)
      (fun e _ t' => t'.all (fun a => !a.frees) = true ∧
        (o.ibvOpenDevice k = none ∧ e = .exit 0 ∧ Done o devList k (.idle k) (t ++ t') ∨
          ∃ ctx, o.ibvOpenDevice k = some ctx ∧ (o.ibvQueryDevice k).1 ≠ 0 ∧ e = .exit (-1) ∧
            Done o devList k (.opened k ctx) (t ++ t'))) := by
  have hdev : devList[k]? = some devList[k] := List.getElem?_eq_getElem hk
  rw [devInfo, hdev]
  simp only [Traced.post_bind, Traced.post_emit]
  rcases hopen : o.ibvOpenDevice k with _ | ctx
  · refine ⟨rfl, Or.inl ⟨rfl, rfl, hdone.le, hdone.listable, ?_, ?_⟩⟩
    · refine hdone.leads.append (Monitor.Leads.cons ⟨?_, hopen.symm⟩ (Monitor.leads_nil _ _))
      rw [hdev]
      rfl
    · rw [List.filterMap_append, hdone.printed]
      exact List.append_nil _
  simp only [Traced.post_bind, Traced.post_emit, Traced.post_ite]
  have hopened := hdone.leads.append (leads_opened hk hopen)
  refine ⟨fun hquery => ⟨rfl, Or.inr ⟨ctx, rfl, hquery, rfl, hdone.le, hdone.listable, ?_, ?_⟩⟩,
    fun hquery => ⟨rfl, ⟨hk, fun i hi => ?_, ?_, ?_⟩, rfl⟩⟩
  · rwa [if_neg hquery] at hopened
  · rw [List.filterMap_append, hdone.printed]
    exact List.append_nil _
  · rcases Nat.lt_succ_iff_lt_or_eq.mp hi with hlt | rfl
    · exact hdone.listable i hlt
    · exact ⟨by rw [hopen]; exact Option.some_ne_none ctx, not_not.mp hquery⟩
  · rw [if_pos (not_not.mp hquery)] at hopened
    have hrest : (openMonitor o devList).Leads (.queried k ctx)
        [.print k devList[k] (o.ibvQueryDevice k).2, .ibvCloseDevice ctx] (.idle (k + 1)) :=
      Monitor.Leads.cons ⟨rfl, hdev, rfl⟩ (Monitor.Leads.cons rfl (Monitor.leads_nil _ _))
    have hall := hopened.append hrest
    rwa [List.append_assoc] at hall
  · rw [List.filterMap_append, hdone.printed, lines_succ hdev]
    rfl

/-- **What `hrd_ibv_devinfo` leaves.** It returns when every device could be listed: then all
have been printed, none is open, and the list has been freed. Otherwise the process ends at the
first device that could not, and the list is not freed: with status `0` when there is no list
or the device cannot be opened, and then none is open; or with `-1` when its attributes cannot
be had, and then it is. -/
theorem post_hrdIbvDevinfo_leaves (o : Outcomes) : Traced.Post (hrdIbvDevinfo o) ()
    (fun _ _ t => ∃ devList t', o.ibvGetDeviceList = some devList ∧
      t = t' ++ [.ibvFreeDeviceList] ∧ t'.all (fun a => !a.frees) = true ∧
      Done o devList devList.length (.idle devList.length) t)
    (fun e _ t => t.all (fun a => !a.frees) = true ∧
      (o.ibvGetDeviceList = none ∧ e = .exit 0 ∧ t = [.ibvGetDeviceList none] ∨
        ∃ devList k u, o.ibvGetDeviceList = some devList ∧ k < devList.length ∧
          ¬Listable o k ∧ Done o devList k u t ∧
          (o.ibvOpenDevice k = none ∧ e = .exit 0 ∧ u = .idle k ∨
            ∃ ctx, o.ibvOpenDevice k = some ctx ∧ e = .exit (-1) ∧ u = .opened k ctx))) := by
  rw [hrdIbvDevinfo, Traced.post_bind, Traced.post_emit]
  rcases hlist : o.ibvGetDeviceList with _ | devList
  · exact ⟨rfl, Or.inl ⟨rfl, rfl, rfl⟩⟩
  have hfirst : Done o devList 0 (.idle 0) [.ibvGetDeviceList (some devList.length)] :=
    ⟨Nat.zero_le _, fun i hi => absurd hi (Nat.not_lt_zero i),
      Monitor.Leads.cons ⟨rfl, rfl⟩ (Monitor.leads_nil _ _), rfl⟩
  have hloop : Traced.Post (Traced.forLoop (devInfo o devList) 0 devList.length) ()
      (fun r _ t => r = none ∧
        Done o devList devList.length (.idle devList.length)
          (.ibvGetDeviceList (some devList.length) :: t) ∧
        t.all (fun a => !a.frees) = true)
      (fun e _ t => t.all (fun a => !a.frees) = true ∧ ∃ k u, k < devList.length ∧
        ¬Listable o k ∧ Done o devList k u (.ibvGetDeviceList (some devList.length) :: t) ∧
        (o.ibvOpenDevice k = none ∧ e = .exit 0 ∧ u = .idle k ∨
          ∃ ctx, o.ibvOpenDevice k = some ctx ∧ e = .exit (-1) ∧ u = .opened k ctx)) := by
    refine Traced.post_forLoop (fun k _ t =>
      Done o devList k (.idle k) (.ibvGetDeviceList (some devList.length) :: t) ∧
        t.all (fun a => !a.frees) = true) ⟨hfirst, rfl⟩ ?_ ?_
    · rintro k s t - hk ⟨hdone, hfrees⟩
      refine (post_devInfo hdone (by omega)).mono ?_ ?_
      · rintro r s' t' ⟨rfl, hdone', hfrees'⟩
        exact ⟨hdone', by rw [List.all_append, hfrees, hfrees']; rfl⟩
      · rintro e s' t' ⟨hfrees', hcases⟩
        refine ⟨by rw [List.all_append, hfrees, hfrees']; rfl, k, ?_⟩
        rcases hcases with ⟨hopen, rfl, hdone'⟩ | ⟨ctx, hopen, hquery, rfl, hdone'⟩
        · exact ⟨.idle k, by omega, fun hc => hc.1 hopen, hdone', Or.inl ⟨hopen, rfl, rfl⟩⟩
        · exact ⟨.opened k ctx, by omega, fun hc => hquery hc.2, hdone',
            Or.inr ⟨ctx, hopen, rfl, rfl⟩⟩
    · rintro s t ⟨hdone, hfrees⟩
      rw [Nat.zero_add] at hdone
      exact ⟨rfl, hdone, hfrees⟩
  rw [Traced.post_bind]
  refine hloop.mono ?_ ?_
  · rintro r s t ⟨-, hdone, hfrees⟩
    rw [Traced.post_emit]
    refine ⟨devList, .ibvGetDeviceList (some devList.length) :: t, rfl, rfl, hfrees, hdone.le,
      hdone.listable, ?_, ?_⟩
    · exact hdone.leads.append (Monitor.Leads.cons rfl (Monitor.leads_nil _ _))
    · change ((Act.ibvGetDeviceList (some devList.length) :: t) ++
        [Act.ibvFreeDeviceList]).filterMap Act.printed = _
      rw [List.filterMap_append, hdone.printed]
      exact List.append_nil _
  · rintro e s t ⟨hfrees, k, u, hk, hnot, hdone, hcases⟩
    exact ⟨hfrees, Or.inr ⟨devList, k, u, rfl, hk, hnot, hdone, hcases⟩⟩

end Device
