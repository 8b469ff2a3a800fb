/-!
# Result codes

The number with which the module ends every response: zero for success, and otherwise why it
refused.
-/

set_option autoImplicit false

namespace TrustedPlatform.ResultCode

def success : UInt32 := 0

/-- The code of a module that is busy: the same command may succeed later. -/
def retry : UInt32 := 0x800

def meanings : List (UInt32 × String) :=
  [(0x00, "Success"),
   (0x01, "Authentication failed"),
   (0x02, "The index to a PCR, DIR or other register is incorrect"),
   (0x03, "One or more parameter is bad"),
   (0x04, "An operation completed successfully but the auditing of that operation failed"),
   (0x05, "The clear disable flag is set and all clear operations now require physical access"),
   (0x06, "The TPM is deactivated"),
   (0x07, "The TPM is disabled"),
   (0x08, "The target command has been disabled"),
   (0x09, "The operation failed"),
   (0x0a, "The ordinal was unknown or inconsistent"),
   (0x0b, "The ability to install an owner is disabled"),
   (0x0c, "The key handle can not be interpreted"),
   (0x0d, "The key handle points to an invalid key"),
   (0x0e, "Unacceptable encryption scheme"),
   (0x0f, "Migration authorization failed"),
   (0x10, "PCR information could not be interpreted"),
   (0x11, "No room to load key"),
   (0x12, "There is no SRK set"),
   (0x13, "An encrypted blob is invalid or was not created by this TPM"),
   (0x14, "There is already an Owner"),
   (0x15, "The TPM has insufficient internal resources to perform the requested action"),
   (0x16, "A random string was too short"),
   (0x17, "The TPM does not have the space to perform the operation"),
   (0x18, "The named PCR value does not match the current PCR value"),
   (0x19, "The paramSize argument to the command has the incorrect value"),
   (0x1a, "There is no existing SHA-1 thread"),
   (0x1b,
     "The calculation is unable to proceed because the existing SHA-1 thread has already encountered an error"),
   (0x1c, "Self-test has failed and the TPM has shut down"),
   (0x1d, "The authorization for the second key in a 2 key function failed authorization"),
   (0x1e, "The tag value sent to for a command is invalid"),
   (0x1f, "An IO error occurred transmitting information to the TPM"),
   (0x20, "The encryption process had a problem"),
   (0x21, "The decryption process did not complete"),
   (0x22, "An invalid handle was used"),
   (0x23, "The TPM does not have an Endorsement Key installed"),
   (0x24, "The usage of a key is not allowed"),
   (0x25, "The submitted entity type is not allowed"),
   (0x26,
     "The command was received in the wrong sequence relative to TPM_Init and a subsequent TPM_Startup"),
   (0x27, "Signed data cannot include additional DER information"),
   (0x28, "The key properties in TPM_KEY_PARMs are not supported by this TPM"),
   (0x29, "The migration properties of this key are incorrect"),
   (0x2a,
     "The signature or encryption scheme for this key is incorrect or not permitted in this situation"),
   (0x2b,
     "The size of the data (or blob) parameter is bad or inconsistent with the referenced key"),
   (0x2c, "A mode parameter is bad"),
   (0x2d, "Either the physicalPresence or physicalPresenceLock bits have the wrong value"),
   (0x2e, "The TPM cannot perform this version of the capability"),
   (0x2f, "The TPM does not allow for wrapped transport sessions"),
   (0x30,
     "TPM audit construction failed and the underlying command was returning a failure code also"),
   (0x31, "TPM audit construction failed and the underlying command was returning success"),
   (0x32, "Attempt to reset a PCR register that does not have the resettable attribute"),
   (0x33,
     "Attempt to reset a PCR register that requires locality and locality modifier not part of command transport"),
   (0x34, "Make identity blob not properly typed"),
   (0x35, "When saving context identified resource type does not match actual resource"),
   (0x36, "The TPM is attempting to execute a command only available when in FIPS mode"),
   (0x37, "The command is attempting to use an invalid family ID"),
   (0x38, "The permission to manipulate the NV storage is not available"),
   (0x39, "The operation requires a signed command"),
   (0x3a, "Wrong operation to load an NV key"),
   (0x3b, "NV_LoadKey blob requires both owner and blob authorization"),
   (0x3c, "The NV area is locked and not writable"),
   (0x3d, "The locality is incorrect for the attempted operation"),
   (0x3e, "The NV area is read only and can't be written to"),
   (0x3f, "There is no protection on the write to the NV area"),
   (0x40, "The family count value does not match"),
   (0x41, "The NV area has already been written to"),
   (0x42, "The NV area attributes conflict"),
   (0x43, "The structure tag and version are invalid or inconsistent"),
   (0x44, "The key is under control of the TPM Owner and can only be evicted by the TPM Owner"),
   (0x45, "The counter handle is incorrect"),
   (0x46, "The write is not a complete write of the area"),
   (0x47, "The gap between saved context counts is too large"),
   (0x48, "The maximum number of NV writes without an owner has been exceeded"),
   (0x49, "No operator AuthData value is set"),
   (0x4a, "The resource pointed to by context is not loaded"),
   (0x4b, "The delegate administration is locked"),
   (0x4c, "Attempt to manage a family other than the delegated family"),
   (0x4d, "Delegation table management not enabled"),
   (0x4e, "There was a command executed outside of an exclusive transport session"),
   (0x4f, "Attempt to context save an owner evict controlled key"),
   (0x50, "The DAA command has no resources available to execute the command"),
   (0x51, "The consistency check on DAA parameter inputData0 has failed"),
   (0x52, "The consistency check on DAA parameter inputData1 has failed"),
   (0x53, "The consistency check on DAA_issuerSettings has failed"),
   (0x54, "The consistency check on DAA_tpmSpecific has failed"),
   (0x55, "The atomic process indicated by the submitted DAA command is not the expected process"),
   (0x56, "The issuer's validity check has detected an inconsistency"),
   (0x57, "The consistency check on w has failed"),
   (0x58, "The handle is incorrect"),
   (0x59, "Delegation is not correct"),
   (0x5a, "The context blob is invalid"),
   (0x5b, "Too many contexts held by the TPM"),
   (0x5c, "Migration authority signature validation failure"),
   (0x5d, "Migration destination not authenticated"),
   (0x5e, "Migration source incorrect"),
   (0x5f, "Incorrect migration authority"),
   (0x61, "Attempt to revoke the EK and the EK is not revocable"),
   (0x62, "Bad signature of CMK ticket"),
   (0x63, "There is no room in the context list for additional contexts"),
   (0x800,
     "The TPM is too busy to respond to the command immediately, but the command could be resubmitted at a later time"),
   (0x801, "TPM_ContinueSelfTest has not been run"),
   (0x802, "The TPM is currently executing the actions of TPM_ContinueSelfTest"),
   (0x803, "The TPM is defending against dictionary attacks and is in some time-out period")]

def meaning (code : UInt32) : String :=
  (meanings.lookup code).getD "Unknown TPM error"

end TrustedPlatform.ResultCode
