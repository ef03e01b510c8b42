import RedPhone.Audio.AudioCodec
import RedPhone.Audio.CallAudioManager
import RedPhone.Audio.StopHeeded
import RedPhone.Audio.StopReturns
import RedPhone.Audio.WebRtcJitterBuffer
import RedPhone.Call.Audible
import RedPhone.Call.CallManager
import RedPhone.Call.Connected
import RedPhone.Call.EndOfStream
import RedPhone.Call.Hangup
import RedPhone.Call.LockManager
import RedPhone.Call.LocksReleased
import RedPhone.Call.SignalManager
import RedPhone.Call.Teardown
import RedPhone.Crypto.EncryptedSignalMessage
import RedPhone.Directory.BloomFilter
import RedPhone.Directory.DirectoryUpdateReceiver
import RedPhone.Directory.NumberFilter
import RedPhone.Java.Crypto
import RedPhone.Java.Exception
import RedPhone.Java.Jce
import RedPhone.Java.Text
import RedPhone.Java.Utf8
import RedPhone.Java.Words
import RedPhone.Lib.BlockCipher
import RedPhone.Lib.CounterMode
import RedPhone.Lib.Endian
import RedPhone.Lib.Framing
import RedPhone.Lib.Interleaving
import RedPhone.Lib.Keeping
import RedPhone.Lib.KeyedList
import RedPhone.Lib.Parsing
import RedPhone.Lib.Progress
import RedPhone.Lib.Reading
import RedPhone.Lib.Related
import RedPhone.Lib.Run
import RedPhone.Lib.Sha
import RedPhone.Lib.Slice
import RedPhone.Lib.Window
import RedPhone.Network.LowLatencySocketConnector
import RedPhone.Registration.Courses
import RedPhone.Registration.Effects
import RedPhone.Registration.Ending
import RedPhone.Registration.Listener
import RedPhone.Registration.Registered
import RedPhone.Registration.RegistrationService
import RedPhone.Retained.Calculator
import RedPhone.Retained.Conducted
import RedPhone.Retained.Database
import RedPhone.Retained.Expiration
import RedPhone.Retained.Kept
import RedPhone.Retained.Resync
import RedPhone.Retained.Verified
import RedPhone.Service.CallStates
import RedPhone.Service.RedPhoneService
import RedPhone.Service.StaleCalls
import RedPhone.Signaling.AccountCreationSocket
import RedPhone.Signaling.Authorized
import RedPhone.Signaling.Conversation
import RedPhone.Signaling.Delivery
import RedPhone.Signaling.FlatStream
import RedPhone.Signaling.Malformed
import RedPhone.Signaling.Resuming
import RedPhone.Signaling.Serialized
import RedPhone.Signaling.Signal
import RedPhone.Signaling.SignalReader
import RedPhone.Signaling.SignalResponseReader
import RedPhone.Signaling.SignalingSocket
import RedPhone.Srtp.KeyStream
import RedPhone.Srtp.Memory
import RedPhone.Srtp.Reconstruction
import RedPhone.Srtp.RoundTrip
import RedPhone.Srtp.RtpAudio
import RedPhone.Srtp.RtpPacket
import RedPhone.Srtp.SequenceCounter
import RedPhone.Srtp.ShortDatagrams
import RedPhone.Srtp.SrtpStream
import RedPhone.Util.Base64
import RedPhone.Util.BigIntegers
import RedPhone.Util.Conversions
import RedPhone.Util.Crc32
import RedPhone.Util.LineReader
import RedPhone.Util.PeriodicActionUtils
import RedPhone.Util.PhoneNumberFormatter
import RedPhone.Zrtp.Agreement
import RedPhone.Zrtp.Authentication
import RedPhone.Zrtp.CacheTime
import RedPhone.Zrtp.Checked
import RedPhone.Zrtp.ClientId
import RedPhone.Zrtp.Closing
import RedPhone.Zrtp.Codec
import RedPhone.Zrtp.Commitment
import RedPhone.Zrtp.Completion
import RedPhone.Zrtp.ConfirmPacket
import RedPhone.Zrtp.Continuity
import RedPhone.Zrtp.DHPacket
import RedPhone.Zrtp.Declared
import RedPhone.Zrtp.HandshakePacket
import RedPhone.Zrtp.HelloPacket
import RedPhone.Zrtp.Honest
import RedPhone.Zrtp.Initiator
import RedPhone.Zrtp.InitiatorHarmless
import RedPhone.Zrtp.InitiatorState
import RedPhone.Zrtp.Iteration
import RedPhone.Zrtp.Judged
import RedPhone.Zrtp.MasterSecret
import RedPhone.Zrtp.MessageBounds
import RedPhone.Zrtp.Network
import RedPhone.Zrtp.OwnBytes
import RedPhone.Zrtp.Pairing
import RedPhone.Zrtp.Parties
import RedPhone.Zrtp.Posted
import RedPhone.Zrtp.Progress
import RedPhone.Zrtp.PublicKeys
import RedPhone.Zrtp.Responder
import RedPhone.Zrtp.ResponderHarmless
import RedPhone.Zrtp.ResponderState
import RedPhone.Zrtp.Retransmission
import RedPhone.Zrtp.Robustness
import RedPhone.Zrtp.Socket
import RedPhone.Zrtp.StateOrder
import RedPhone.Zrtp.Storing
import RedPhone.Zrtp.Thread
import RedPhone.Zrtp.Undisturbed
