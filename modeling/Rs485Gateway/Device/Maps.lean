import Rs485Gateway.Device.RegisterMap

/-! The two device maps (`inverter_map.c`, `ups_map.c`). -/

namespace Rs485Gateway

open RegisterAccess

def inverterStopBit : Reg := 0x0001
def inverterRunBit : Reg := 0x0002
def inverterEnableAccelerationBit : Reg := 0x1000
def inverterEfBit : Reg := 0x0001
def inverterFireModeBit : Reg := 0x0020

def inverter1MappingTable : List DeviceRegisterMapping := [
  ⟨0x0006, 0xA000, ro⟩,
  ⟨0x0014, 0xA100, rw⟩, ⟨0x0015, 0xA101, rw⟩,
  ⟨0x010A, 0xA102, rw⟩, ⟨0x010B, 0xA103, rw⟩, ⟨0x010C, 0xA104, rw⟩, ⟨0x010D, 0xA105, rw⟩,
  ⟨0x0118, 0xA10E, rw⟩, ⟨0x0119, 0xA10F, rw⟩, ⟨0x011A, 0xA110, rw⟩, ⟨0x011B, 0xA111, rw⟩,
  ⟨0x0900, 0xA106, rw⟩, ⟨0x0901, 0xA107, rw⟩, ⟨0x0902, 0xA108, rw⟩, ⟨0x0903, 0xA109, rw⟩,
  ⟨0x0904, 0xA10A, rw⟩,
  ⟨0x0D00, 0xA112, rw⟩,
  ⟨0x2000, 0xA10B, rw⟩, ⟨0x2001, 0xA10C, rw⟩, ⟨0x2002, 0xA10D, rw⟩,
  ⟨0x2100, 0xA002, ro⟩, ⟨0x2101, 0xA003, ro⟩, ⟨0x2102, 0xA004, ro⟩, ⟨0x2103, 0xA005, ro⟩,
  ⟨0x2104, 0xA006, ro⟩, ⟨0x2105, 0xA007, ro⟩,
  ⟨0x210C, 0xA008, ro⟩,
  ⟨0x220A, 0xA009, ro⟩]

def inverter1Profile : DeviceMapProfile where
  table := inverter1MappingTable
  readChunk := 20

def intFrequencyUpperLimitReg : Reg := 0xA102
def intFrequencyLowerLimitReg : Reg := 0xA103
def intInverterInitFlagReg : Reg := 0xA0F0
def intInverterConnectionStatusReg : Reg := 0xA0F1

def devFrequencyCmdSourceReg : Reg := 0x0014
def devRunCmdSourceReg : Reg := 0x0015
def devFrequencyUpperLimitReg : Reg := 0x010A
def devFrequencyLowerLimitReg : Reg := 0x010B
def devAccelerationReg : Reg := 0x010C
def devDecelerationReg : Reg := 0x010D
def devSSpeedStartReg : Reg := 0x0118
def devSSpeedEndReg : Reg := 0x0119
def devSDecelerationStartReg : Reg := 0x011A
def devSDecelerationEndReg : Reg := 0x011B
def devSlaveId : Reg := 0x0900
def devBaudRate : Reg := 0x0901
def devMbErrorHandleReg : Reg := 0x0902
def devMbSerialSettingReg : Reg := 0x0904
def devOperationCmdReg : Reg := 0x2000
def devFrequencyCmdReg : Reg := 0x2001
def devFaultControlCmdReg : Reg := 0x2002

def inverterQueueMergeAddrs : List Reg := [devOperationCmdReg, devFrequencyCmdReg]

def inverterQueueMergeAllowed (deviceAddress : Reg) : Bool :=
  inverterQueueMergeAddrs.contains deviceAddress

def ups1MappingTable : List DeviceRegisterMapping := [
  ⟨0x0000, 0xA200, ro⟩, ⟨0x0001, 0xA201, ro⟩, ⟨0x0002, 0xA202, ro⟩, ⟨0x0003, 0xA203, ro⟩,
  ⟨0x00BC, 0xA204, ro⟩, ⟨0x00BD, 0xA205, ro⟩, ⟨0x00BE, 0xA206, ro⟩, ⟨0x00BF, 0xA207, ro⟩,
  ⟨0x00C0, 0xA208, ro⟩, ⟨0x00C1, 0xA209, ro⟩, ⟨0x00C3, 0xA20A, ro⟩, ⟨0x00CB, 0xA20B, ro⟩,
  ⟨0x00CC, 0xA20C, ro⟩, ⟨0x00CD, 0xA20D, ro⟩, ⟨0x00CE, 0xA20E, ro⟩, ⟨0x00CF, 0xA20F, ro⟩,
  ⟨0x00D0, 0xA210, ro⟩, ⟨0x00DE, 0xA211, ro⟩, ⟨0x00DF, 0xA212, ro⟩, ⟨0x00E0, 0xA213, ro⟩,
  ⟨0x02A2, 0xA214, ro⟩, ⟨0x0364, 0xA215, ro⟩, ⟨0x036A, 0xA216, ro⟩, ⟨0x03E1, 0xA217, ro⟩,
  ⟨0x03E2, 0xA218, ro⟩, ⟨0x03E3, 0xA219, ro⟩, ⟨0x03E4, 0xA21A, ro⟩, ⟨0x03E5, 0xA21B, ro⟩,
  ⟨0x03E6, 0xA21C, ro⟩, ⟨0x03E7, 0xA21D, ro⟩, ⟨0x03E8, 0xA21E, ro⟩, ⟨0x03E9, 0xA21F, ro⟩,
  ⟨0x03EA, 0xA220, ro⟩, ⟨0x0403, 0xA221, ro⟩, ⟨0x0404, 0xA222, ro⟩, ⟨0x0405, 0xA223, ro⟩,
  ⟨0x0406, 0xA224, ro⟩, ⟨0x0407, 0xA225, ro⟩, ⟨0x0408, 0xA226, ro⟩, ⟨0x0409, 0xA227, ro⟩,
  ⟨0x040A, 0xA228, ro⟩, ⟨0x040B, 0xA229, ro⟩, ⟨0x040C, 0xA22A, ro⟩, ⟨0x0412, 0xA22B, ro⟩,
  ⟨0x0413, 0xA22C, ro⟩, ⟨0x0414, 0xA22D, ro⟩, ⟨0x0415, 0xA22E, ro⟩, ⟨0x0416, 0xA22F, ro⟩,
  ⟨0x05B0, 0xA230, ro⟩]

def ups1Profile : DeviceMapProfile where
  table := ups1MappingTable
  readChunk := 50

def intUpsInitFlagReg : Reg := 0xA2F0
def intUpsConnectionStatusReg : Reg := 0xA2F1

def devUpsShutdownReg : Reg := 0x03AB
def devUpsRestartReg : Reg := 0x03AE
def devUpsRebootVerifyReg : Reg := 0x03DA

def upsQueueMergeAllowed (_deviceAddress : Reg) : Bool := false

theorem inverter1Profile_sorted : inverter1Profile.Sorted := by
  unfold DeviceMapProfile.Sorted
  decide

theorem ups1Profile_sorted : ups1Profile.Sorted := by
  unfold DeviceMapProfile.Sorted
  decide +kernel

end Rs485Gateway
