import SpeechModules.AliyunToken
import SpeechModules.AliyunTokenExpiry
import SpeechModules.AccessToken
import SpeechModules.UriUtils
import SpeechModules.AliyunTtsSending
import SpeechModules.AliyunTtsSingleRequest
import SpeechModules.AliyunTtsAudio
import SpeechModules.AliyunTtsTextOrder
import SpeechModules.AliyunTtsPlayback
import SpeechModules.AliyunTtsEvents
import SpeechModules.AliyunTtsCompletion
import SpeechModules.AliyunTtsTimeout
import SpeechModules.AliyunTtsBuffers
import SpeechModules.AliyunTtsLifetime
import SpeechModules.AliyunTtsOpenFailure
import SpeechModules.SpeakText
import SpeechModules.SpeechCache
import SpeechModules.AudioDetection
import SpeechModules.DigitReading
import SpeechModules.CollectInput
import SpeechModules.AudioQueueSharing
import SpeechModules.FunAsrRetry
import SpeechModules.FunAsrStreaming
import SpeechModules.FunAsrReconnect
import SpeechModules.FunAsrOpening
import SpeechModules.FunAsrHandshake
import SpeechModules.FunAsrLifetime
import SpeechModules.FunAsrPause
import SpeechModules.FunAsrChannel
import SpeechModules.FunAsrStartFailure
import SpeechModules.AsrInitMessage
import SpeechModules.RnnoiseOwnership
import SpeechModules.RnnoiseTolerance
import SpeechModules.EndOfSpeech
import SpeechModules.NioWrite
import SpeechModules.WebSocketChannel
import SpeechModules.WebSocketClient
