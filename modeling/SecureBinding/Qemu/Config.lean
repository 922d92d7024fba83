import SecureBinding.Go.Strings

/-!
# Qemu.Config

The configuration of a VM (`manager/qemu/config.go`), the information that is kept with it
(`VMInfo` of `manager/qemu/vm.go`) and its record (`VMState` of `manager/qemu/persistence.go`).
-/

namespace SecureBinding.Qemu

open Go

structure MemoryConfig where
  size : GoString := []
  slots : Int64 := 0
  max : GoString := []

structure OVMFCodeConfig where
  if_ : GoString := []
  format : GoString := []
  unit : Int64 := 0
  file : GoString := []
  readOnly : GoString := []
  version : GoString := []

structure OVMFVarsConfig where
  if_ : GoString := []
  format : GoString := []
  unit : Int64 := 0
  file : GoString := []

structure NetDevConfig where
  id : GoString := []
  hostFwdAgent : Int64 := 0
  guestFwdAgent : Int64 := 0

structure VirtioNetPciConfig where
  disableLegacy : GoString := []
  iommuPlatform : Bool := false
  addr : GoString := []
  romFile : GoString := []

structure DiskImgConfig where
  kernelFile : GoString := []
  rootFsFile : GoString := []

structure SEVSNPConfig where
  id : GoString := []
  cBitPos : Int64 := 0
  reducedPhysBits : Int64 := 0
  enableHostData : Bool := false
  hostData : GoString := []

structure TDXConfig where
  id : GoString := []
  quoteGenerationPort : Int64 := 0
  ovmf : GoString := []

structure IGVMConfig where
  id : GoString := []
  file : GoString := []

/-- `Config`; its sections are embedded. -/
structure Config where
  enableSEVSNP : Bool := false
  enableTDX : Bool := false
  qemuBinPath : GoString := []
  useSudo : Bool := false
  enableKVM : Bool := false
  machine : GoString := []
  cpu : GoString := []
  smpCount : Int64 := 0
  maxCPUs : Int64 := 0
  memID : GoString := []
  memory : MemoryConfig := {}
  ovmfCode : OVMFCodeConfig := {}
  ovmfVars : OVMFVarsConfig := {}
  netDev : NetDevConfig := {}
  virtioNetPci : VirtioNetPciConfig := {}
  diskImg : DiskImgConfig := {}
  sevSNP : SEVSNPConfig := {}
  tdx : TDXConfig := {}
  igvm : IGVMConfig := {}
  noGraphic : Bool := false
  monitor : GoString := []
  kernelCommandLine : GoString := []
  hostFwdRange : GoString := []
  certsMount : GoString := []
  envMount : GoString := []

structure VMInfo where
  config : Config := {}
  launchTCB : UInt64 := 0

/-- The record of a VM that is persisted. -/
structure VMState where
  id : GoString := []
  vmInfo : VMInfo := {}
  pid : Int64 := 0

end SecureBinding.Qemu
