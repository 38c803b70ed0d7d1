import Mathlib.Tactic

/-! Function codes, limits and framing constants (`modbus_defines.h`). -/

namespace Rs485Gateway

def modbusFuncReadHoldingRegisters : UInt8 := 0x03
def modbusFuncWriteSingleRegister : UInt8 := 0x06
def modbusFuncWriteMultipleRegisters : UInt8 := 0x10

def modbusExceptionFlag : UInt8 := 0x80

def modbusExIllegalFunction : UInt8 := 0x01
def modbusExIllegalDataAddress : UInt8 := 0x02

def modbusMaxReadRegisters : Nat := 125
def modbusMaxWriteRegisters : Nat := 123

def modbusRtuCrcLen : Nat := 2
def modbusTcpMbapHeaderLen : Nat := 6
def modbusTcpMinReadReqLength : Nat := 12
def modbusTcpMaxAduLength : Nat := 260

end Rs485Gateway
