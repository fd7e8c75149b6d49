import EchoServer.HeartbeatRoundTrip
import EchoServer.ClientFraming
import EchoServer.ClientReconnect
import EchoServer.ServerFraming
import EchoServer.WebSocketDecoding
import EchoServer.ServerCounting
import EchoServer.ServerLifetime
import EchoServer.ServerCallbacks
import EchoServer.StreamRoundTrip
import EchoServer.AllocatorSafety
import EchoServer.ZeroedMemory
import EchoServer.PairQueues
import EchoServer.ServerLimit
import EchoServer.ServerFailedAccept
import EchoServer.ClientRetry
import EchoServer.ClientDescriptors
import EchoServer.ClientTracking
import EchoServer.SendPath
import EchoServer.ServerBatches
import EchoServer.LengthPrefixedReads
import EchoServer.StringLayout
import EchoServer.StringDestination
import EchoServer.PacketTermination
import EchoServer.LogicClose
import EchoServer.WebSocketProtocol
import EchoServer.WebSocketEncoding
import EchoServer.CStrings
import EchoServer.Base64Groups
import EchoServer.EncodeBase64
import EchoServer.DecodeBase64
import EchoServer.WebSocketHandShake
import EchoServer.Log
import EchoServer.LogBuffering
import EchoServer.FileSequence
import EchoServer.CivilCalendar
import EchoServer.CalendarTime
import EchoServer.CivilTime
import EchoServer.LogFiles
import EchoServer.LogRotation
import EchoServer.WebSocketUpgrade
import EchoServer.ByteConservation
import EchoServer.ReceiverProgress
import EchoServer.LogDays
import EchoServer.LeftmostOccurrences
import EchoServer.StringUtils
import EchoServer.ParseIni
import EchoServer.IniText
import EchoServer.InsertionAtomicity
import EchoServer.StreamSeeking
import EchoServer.ReplaceAllChar
import EchoServer.SplitString
import EchoServer.WebSocketClosing
import EchoServer.ServerConfig
import EchoServer.PairLimit
import EchoServer.ChainedBlocks
import EchoServer.SecureHash
import EchoServer.Sha1
import EchoServer.Sha1Digest
import EchoServer.Sha1Calls
import EchoServer.WebSocketAccept
import EchoServer.FreeQueue
import EchoServer.HeartbeatLinks
import EchoServer.PacketTransit
import EchoServer.HeartbeatEcho
import EchoServer.StorageReturn
import EchoServer.AllocatorReport
import EchoServer.LeakReport
import EchoServer.ServerAtRest
import EchoServer.StreamParsing
import EchoServer.WebSocketDelivery
import EchoServer.RoundRobin
import EchoServer.ServerThreads
