/-
# Opening a device by its name

`OpenIbDevice` and `DeviceList::GetIbDeviceInfo` are two loops over the list of devices that are
written alike.  Each asks every device for its name until one carries the name it looks for, and
each gives up at the first device that does not answer.

* §1 -- the devices and the list of them, with its iterators;
* §2 -- the two searches, and what the loops come to (`forEach_eq`);
* §3 -- what a search finds: the device, if every device in front of it answers (`search_found`), or
  the error of one that does not (`search_hidden`); `foundByName_iff`.
-/
import DocaCpp.Core.Moves
import Mathlib.Data.List.Basic
import Mathlib.Data.List.TakeWhile

namespace DocaCpp

/-! ## 1. The devices -/

section Devices

variable {D : Type}

/-- What the native library answers about its devices. -/
structure DeviceLibrary (D : Type) where
  /-- `doca_devinfo_get_ibdev_name`, by the characters it writes -/
  getIbdevName : D → Except Err Bytes
  /-- `doca_dev_open` -/
  devOpen : D → Except Err Handle

/-- A `std::string` of a C string, which ends in front of a null character. -/
def cString (chars : Bytes) : Bytes := chars.takeWhile (· ≠ 0)

/-- `DeviceInfo::GetIbdevName`. -/
def DeviceInfo.getIbdevName (lib : DeviceLibrary D) (devInfo : D) : Except Err Bytes :=
  match lib.getIbdevName devInfo with
  | .error err => .error (.wrap err "Failed to get IB device name")
  | .ok ibdevName => .ok (cString ibdevName)

/-- `Device::Open`. -/
def Device.openInfo (lib : DeviceLibrary D) (devInfo : D) : Except Err (Managed Unit) :=
  match lib.devOpen devInfo with
  | .error err => .error (.wrap err "Failed to open device")
  | .ok dev => .ok { native := some dev, rest := (), deleter := some {} }

/-- `DeviceList`, by the devices in its native array. -/
structure DeviceList (D : Type) where
  deviceList : List D

/-- `DeviceList::Iterator`. -/
structure DeviceList.Iterator (D : Type) where
  deviceList : List D
  index : Nat

namespace DeviceList

/-- `operator*`; there is nothing behind the end. -/
def Iterator.deref (iter : Iterator D) : Option D := iter.deviceList[iter.index]?

/-- `operator++`. -/
def Iterator.next (iter : Iterator D) : Iterator D := { iter with index := iter.index + 1 }

/-- `operator!=`. -/
def Iterator.ne (iter other : Iterator D) : Bool := iter.index != other.index

/-- `DeviceList::Size`. -/
def size (devices : DeviceList D) : Nat := devices.deviceList.length

/-- `DeviceList::Begin`. -/
def beginIter (devices : DeviceList D) : Iterator D := ⟨devices.deviceList, 0⟩

/-- `DeviceList::End`. -/
def endIter (devices : DeviceList D) : Iterator D := ⟨devices.deviceList, devices.size⟩

/-- A loop up to an iterator, with a body that may return, by a bound on its rounds. -/
def Iterator.loop {ρ : Type} (last : Iterator D) (body : D → Option ρ) : Nat → Iterator D → Option ρ
  | 0, _ => none
  | rounds + 1, iter =>
    if iter.ne last then
      match iter.deref with
      | none => none
      | some devInfo =>
        match body devInfo with
        | some result => some result
        | none => loop last body rounds iter.next
    else none

/-- The loop over a list: it ends after as many rounds as there are devices. -/
def forEach {ρ : Type} (devices : DeviceList D) (body : D → Option ρ) : Option ρ :=
  Iterator.loop devices.endIter body (devices.size + 1) devices.beginIter

/-! ## 2. The searches -/

/-- One round of a search: a device that does not answer ends it, and so does one that carries the
name. -/
def probe {ρ : Type} (lib : DeviceLibrary D) (queryFailure : String) (found : D → Except Err ρ)
    (ibDevname : Bytes) (devInfo : D) : Option (Except Err ρ) :=
  match DeviceInfo.getIbdevName lib devInfo with
  | .error err => some (.error (.wrap err queryFailure))
  | .ok name => if name = ibDevname then some (found devInfo) else none

/-- The loop of a search, and what it ends with if it goes over the whole list. -/
def search {ρ : Type} (lib : DeviceLibrary D) (queryFailure : String) (found : D → Except Err ρ)
    (missing : String) (devices : DeviceList D) (ibDevname : Bytes) : Except Err ρ :=
  (devices.forEach (probe lib queryFailure found ibDevname)).getD (.error (.new missing))

/-- `DeviceList::GetIbDeviceInfo`. -/
def getIbDeviceInfo (lib : DeviceLibrary D) : DeviceList D → Bytes → Except Err D :=
  search lib "Failed to get IB device name" .ok "No matching IB device found"

end DeviceList

/-- `OpenIbDevice`, by what `DeviceList::Create` answers. -/
def openIbDevice (lib : DeviceLibrary D) (created : Except Err (DeviceList D))
    (ibDeviceName : Bytes) : Except Err (Managed Unit) :=
  match created with
  | .error _ => .error (.new "Failed to create device list")
  | .ok devices =>
    devices.search lib "Failed to get device InfiniBand name"
      (fun devInfo =>
        match Device.openInfo lib devInfo with
        | .error err => .error (.wrap err "Failed to open InfiniBand device")
        | .ok device => .ok device)
      "Failed to open InfiniBand device: no device found with given name" ibDeviceName

namespace DeviceList

variable {ρ : Type} {lib : DeviceLibrary D} {devices : DeviceList D} {n : Bytes} {d e : D}

/-- From an iterator on, the loop goes over the rest of the list. -/
theorem loop_eq (devices : DeviceList D) (body : D → Option ρ) :
    ∀ rounds index, index ≤ devices.size → devices.size < index + rounds →
      Iterator.loop devices.endIter body rounds ⟨devices.deviceList, index⟩ =
        (devices.deviceList.drop index).findSome? body := by
  intro rounds
  induction rounds with
  | zero =>
    intro index hle hlt
    omega
  | succ rounds ih =>
    intro index hle hlt
    rw [Iterator.loop]
    by_cases hend : index = devices.size
    · have hne : (⟨devices.deviceList, index⟩ : Iterator D).ne devices.endIter = false := by
        simp [Iterator.ne, endIter, hend]
      rw [hne, hend, DeviceList.size, List.drop_length]
      rfl
    · have hne : (⟨devices.deviceList, index⟩ : Iterator D).ne devices.endIter = true := by
        simp [Iterator.ne, endIter, hend]
      have hindex : index < devices.deviceList.length := Nat.lt_of_le_of_ne hle hend
      rw [if_pos hne, Iterator.deref, List.getElem?_eq_getElem hindex,
        List.drop_eq_getElem_cons hindex, List.findSome?_cons]
      dsimp only
      cases body devices.deviceList[index] with
      | some result => rfl
      | none => exact ih (index + 1) hindex (by omega)

/-- **The loop goes over the devices in order.** -/
theorem forEach_eq (devices : DeviceList D) (body : D → Option ρ) :
    devices.forEach body = devices.deviceList.findSome? body :=
  loop_eq devices body (devices.size + 1) 0 (Nat.zero_le _) (by omega)

/-! ## 3. What a search finds -/

/-- The device answers when it is asked for its name. -/
def Answers (lib : DeviceLibrary D) (e : D) : Prop :=
  ∃ name, DeviceInfo.getIbdevName lib e = .ok name

/-- The device answers with this name. -/
def carries (lib : DeviceLibrary D) (n : Bytes) (e : D) : Bool :=
  match DeviceInfo.getIbdevName lib e with
  | .error _ => false
  | .ok name => decide (name = n)

/-- The devices in front of the first one that carries the name. -/
def front (lib : DeviceLibrary D) (devices : DeviceList D) (n : Bytes) : List D :=
  devices.deviceList.takeWhile fun e => !carries lib n e

/-- The name is carried by one device of the list, and by no other. -/
def Only (lib : DeviceLibrary D) (devices : DeviceList D) (n : Bytes) (d : D) : Prop :=
  devices.deviceList.filter (carries lib n) = [d]

/-- Every device in front of the one that carries the name answers. -/
def Visible (lib : DeviceLibrary D) (devices : DeviceList D) (n : Bytes) : Prop :=
  ∀ e ∈ devices.front lib n, Answers lib e

/-- The list has the device that carries the name behind devices that do not. -/
theorem Only.split (h : Only lib devices n d) :
    ∃ post, devices.deviceList = devices.front lib n ++ d :: post ∧ carries lib n d = true := by
  obtain ⟨pre, post, hl, hpre, hd, -⟩ := List.filter_eq_cons_iff.mp h
  refine ⟨post, ?_, hd⟩
  have hfront : devices.front lib n = pre := by
    rw [front, hl, List.takeWhile_append_of_pos fun e he => by simpa using hpre e he,
      List.takeWhile_cons_of_neg (by simp [hd]), List.append_nil]
  rw [hfront, hl]

/-- No device in front carries the name. -/
theorem not_carries_of_mem_front (h : e ∈ devices.front lib n) : carries lib n e = false := by
  simpa using List.mem_takeWhile_imp h

/-- A name that one device carries is carried by that device in any order of the list. -/
theorem Only.perm (h : Only lib devices n d) {devices' : DeviceList D}
    (hperm : devices'.deviceList.Perm devices.deviceList) : Only lib devices' n d := by
  have hfilter := hperm.filter (carries lib n)
  rw [h] at hfilter
  exact List.perm_singleton.mp hfilter

section Search

variable {queryFailure missing : String} {found : D → Except Err ρ}

theorem probe_of_carries (h : carries lib n e = true) :
    probe lib queryFailure found n e = some (found e) := by
  rw [carries] at h
  split at h
  next => cases h
  next name hname =>
    rw [probe, hname]
    exact if_pos (of_decide_eq_true h)

theorem probe_of_answers (h : Answers lib e) (hn : carries lib n e = false) :
    probe lib queryFailure found n e = none := by
  obtain ⟨name, hname⟩ := h
  rw [carries, hname] at hn
  rw [probe, hname]
  exact if_neg (of_decide_eq_false hn)

/-- **A search finds the device** if every device in front of it answers. -/
theorem search_found (h : Only lib devices n d) (hvisible : devices.Visible lib n) :
    devices.search lib queryFailure found missing n = found d := by
  obtain ⟨post, hl, hd⟩ := h.split
  have hnone : (devices.front lib n).findSome? (probe lib queryFailure found n) = none := by
    rw [List.findSome?_eq_none_iff]
    intro e he
    exact probe_of_answers (hvisible e he) (not_carries_of_mem_front he)
  rw [search, forEach_eq, hl, List.findSome?_append, hnone, List.findSome?_cons,
    probe_of_carries hd]
  rfl

/-- **A device in front that does not answer hides it**: the error of such a device is returned. -/
theorem search_hidden (h : Only lib devices n d) (hhidden : ¬ devices.Visible lib n) :
    ∃ e ∈ devices.front lib n, ∃ err, DeviceInfo.getIbdevName lib e = .error err ∧
      devices.search lib queryFailure found missing n = .error (.wrap err queryFailure) := by
  obtain ⟨post, hl, -⟩ := h.split
  simp only [Visible, not_forall] at hhidden
  obtain ⟨e, he, hsilent⟩ := hhidden
  have hstops : ∃ result, (devices.front lib n).findSome? (probe lib queryFailure found n) =
      some result := by
    rw [← Option.isSome_iff_exists, List.findSome?_isSome_iff]
    refine ⟨e, he, ?_⟩
    rw [probe]
    cases hname : DeviceInfo.getIbdevName lib e with
    | error err => rfl
    | ok name => exact absurd ⟨name, hname⟩ hsilent
  obtain ⟨result, hresult⟩ := hstops
  -- the device that ends the search carries no name, for it is in front
  obtain ⟨pre, e', post', hfront, he', -⟩ := List.findSome?_eq_some_iff.mp hresult
  have hmem : e' ∈ devices.front lib n := by
    rw [hfront]
    exact List.mem_append_right _ List.mem_cons_self
  cases hname : DeviceInfo.getIbdevName lib e' with
  | ok name =>
    rw [probe_of_answers ⟨name, hname⟩ (not_carries_of_mem_front hmem)] at he'
    cases he'
  | error err =>
    refine ⟨e', hmem, err, hname, ?_⟩
    rw [probe, hname] at he'
    cases he'
    rw [search, forEach_eq, hl, List.findSome?_append, hresult]
    rfl

end Search

/-- **The device is found by its name**: it is opened if it can be, and its information is found. -/
structure Finds (lib : DeviceLibrary D) (devices : DeviceList D) (n : Bytes) (d : D) : Prop where
  opens : ∀ device, openIbDevice lib (.ok devices) n = .ok device ↔
    Device.openInfo lib d = .ok device
  finds : devices.getIbDeviceInfo lib n = .ok d

/-- A device is found by its name exactly if every device in front of it answers. -/
theorem Only.finds_iff (h : Only lib devices n d) :
    Finds lib devices n d ↔ devices.Visible lib n := by
  constructor
  · rintro ⟨-, hfinds⟩
    by_contra hhidden
    rw [getIbDeviceInfo] at hfinds
    obtain ⟨e, -, err, -, herr⟩ := search_hidden h hhidden
    rw [herr] at hfinds
    cases hfinds
  · intro hvisible
    refine ⟨fun device => ?_, search_found h hvisible⟩
    rw [openIbDevice, search_found h hvisible]
    cases Device.openInfo lib d with
    | error err =>
      constructor
      · intro heq
        cases heq
      · intro heq
        cases heq
    | ok opened => rfl

/-- **When a device is found by its name**: in one order of the list exactly if every device in front
of it answers, and in every order exactly if every device of the list answers. -/
theorem foundByName_iff (h : Only lib devices n d) :
    (∀ devices' : DeviceList D, devices'.deviceList.Perm devices.deviceList →
      (Finds lib devices' n d ↔ devices'.Visible lib n)) ∧
    ((∀ devices' : DeviceList D, devices'.deviceList.Perm devices.deviceList →
      Finds lib devices' n d) ↔ ∀ e ∈ devices.deviceList, Answers lib e) := by
  refine ⟨fun devices' hperm => (h.perm hperm).finds_iff, fun hall e he => ?_, ?_⟩
  · -- the list with this device at its head
    obtain ⟨pre, post, hl⟩ := List.append_of_mem he
    have hperm : (e :: (pre ++ post)).Perm devices.deviceList := by
      rw [hl]
      exact List.perm_middle.symm
    have honly : Only lib ⟨e :: (pre ++ post)⟩ n d := h.perm hperm
    have hvisible := honly.finds_iff.mp (hall ⟨e :: (pre ++ post)⟩ hperm)
    cases hcarries : carries lib n e with
    | true =>
      rw [carries] at hcarries
      split at hcarries
      next => cases hcarries
      next name hname => exact ⟨name, hname⟩
    | false =>
      refine hvisible e ?_
      rw [front, List.takeWhile_cons_of_pos (by simp [hcarries])]
      exact List.mem_cons_self
  · intro hall devices' hperm
    refine (h.perm hperm).finds_iff.mpr fun e he => hall e (hperm.subset ?_)
    exact List.takeWhile_subset _ he

/-- Two devices: the first does not answer when it is asked for its name. -/
def oneSilent : DeviceLibrary Nat where
  getIbdevName devInfo :=
    if devInfo = 0 then .error (.native 1) else .ok (ascii "mlx5_0".toList ++ [0])
  devOpen devInfo := .ok devInfo

/-- In front of it, the device that answers is found. -/
theorem foundByName_iff_front : Finds oneSilent ⟨[1, 0]⟩ (ascii "mlx5_0".toList) 1 := by
  have honly : Only oneSilent ⟨[0, 1]⟩ (ascii "mlx5_0".toList) 1 := rfl
  refine ((foundByName_iff honly).1 ⟨[1, 0]⟩ (List.Perm.swap 0 1 [])).mpr fun e he => ?_
  cases he

/-- **Behind it, it is neither opened nor found**, though it could be opened. -/
theorem silent_device_hides :
    Only oneSilent ⟨[0, 1]⟩ (ascii "mlx5_0".toList) 1 ∧
    Device.openInfo oneSilent 1 = .ok { native := some 1, rest := (), deleter := some {} } ∧
    openIbDevice oneSilent (.ok ⟨[0, 1]⟩) (ascii "mlx5_0".toList) =
      .error (.wrap (.wrap (.native 1) "Failed to get IB device name")
        "Failed to get device InfiniBand name") ∧
    getIbDeviceInfo oneSilent ⟨[0, 1]⟩ (ascii "mlx5_0".toList) =
      .error (.wrap (.wrap (.native 1) "Failed to get IB device name")
        "Failed to get IB device name") ∧
    ¬ Finds oneSilent ⟨[0, 1]⟩ (ascii "mlx5_0".toList) 1 := by
  refine ⟨rfl, rfl, rfl, rfl, fun h => ?_⟩
  have hfinds := h.finds
  cases hfinds

end DeviceList

end Devices

end DocaCpp
