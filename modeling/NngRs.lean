import NngRs.Machine.Watch
import NngRs.Machine.Fifo
import NngRs.Anng.Url
import NngRs.Anng.Consumed
import NngRs.Anng.ChunkMut
import NngRs.Anng.Idle
import NngRs.Anng.Delivery
import NngRs.Anng.Ownership
import NngRs.Anng.Exchange
import NngRs.Anng.Reply
import NngRs.Anng.Init
import NngRs.Anng.Subscription
import NngRs.Anng.Forget
import NngRs.Anng.Attach
import NngRs.Anng.Dial
import NngRs.Nng.Library
import NngRs.Nng.Aio
import NngRs.Nng.AioMoves
import NngRs.Nng.AioStory
import NngRs.Nng.AioCalls
import NngRs.Nng.AioMessages
import NngRs.Nng.AioTeardown
import NngRs.Runtime.Net
import NngRs.Runtime.Utf8
import NngRs.Anng.ChunkedWrite
import NngRs.Anng.Reserve
import NngRs.Machine.Growth
import NngRs.Anng.Amortized
import NngRs.Anng.Clone
import NngRs.Anng.Cursor
import NngRs.Anng.Retry
import NngRs.Nng.Header
import NngRs.Nng.Values
import NngRs.Nng.Slot
import NngRs.Anng.Conversation
import NngRs.Anng.TcpUrl
import NngRs.Anng.AbstractUrl
import NngRs.Anng.Unanswered
import NngRs.Anng.Collect
import NngRs.Anng.Options
import NngRs.Nng.Decoders
import NngRs.Anng.Normalised
import NngRs.Anng.Program
import NngRs.Anng.Contents
import NngRs.Anng.Progress
import NngRs.Nng.AioProgress
import NngRs.Nng.PipeProgress
import NngRs.Nng.Handles
import NngRs.Anng.Handles
